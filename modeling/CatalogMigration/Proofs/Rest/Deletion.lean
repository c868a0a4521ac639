import CatalogMigration.Proofs.Catalog.Effect
import CatalogMigration.Proofs.Rest.Requests
import CatalogMigration.Workload.Run
import Mathlib.Data.List.Forall2
import Mathlib.Data.List.Pairwise

namespace CatalogMigration

open Program

namespace RestSession

variable {α : Type} {front : List (List Char)} {space : String} {t : Fixture} {c : Client}
  {s s' : RestSession} {given : List ((_ : Request) × Reply)} {result : Except Failure α}

theorem attempt_trace {call : SessionCall} {failure : SessionError → Failure}
    {next : call.Result → SessionProgram (Except Failure α)}
    (trace : Trace ((SessionProgram.attempt call failure next).translate answer s) given
      (result, s')) :
    ∃ first rest r s₁, Trace (answer call s) first (r, s₁) ∧ given = first ++ rest ∧
      ((rest = [] ∧ ∃ e, r = .error e ∧ result = .error (failure e)) ∨
        ∃ a, r = .ok a ∧ Trace ((next a).translate answer s₁) rest (result, s')) := by
  obtain ⟨r, s₁, first, rest, start, finish, rfl⟩ := trace.of_translate_call
  refine ⟨first, rest, r, s₁, start, rfl, ?_⟩
  cases r with
  | error e =>
    cases finish
    exact .inl ⟨rfl, e, rfl, rfl⟩
  | ok a => exact .inr ⟨a, rfl, finish⟩

theorem writeTable_trace {next : SessionProgram (Except Failure α)}
    (reaches : s.client.Reaches front space t.name)
    (trace : Trace ((Workload.writeTable space t next).translate answer s) given (result, s')) :
    ∃ turn rest, CreateTurn s.client front t.name turn ∧ given = turn ++ rest ∧
      ((rest = [] ∧ ∃ e, result = .error (.write t.name e)) ∨
        ∃ s₁, s₁.client = s.client ∧ Trace (next.translate answer s₁) rest (result, s')) := by
  obtain ⟨created, rest, r, s₁, start, rfl, outcome⟩ := attempt_trace trace
  have turn := create_trace reaches start
  have kept := client_of_trace start
  rcases outcome with ⟨rfl, e, rfl, rfl⟩ | ⟨_, rfl, trace⟩
  · exact ⟨created, [], turn, rfl, .inl ⟨rfl, e, rfl⟩⟩
  obtain ⟨appended, rest, r, s₂, start, rfl, outcome⟩ := attempt_trace trace
  have turn := turn.append ((append_spares space t t.expectedRows s₁).trace start)
  have kept := (client_of_trace start).trans kept
  rcases outcome with ⟨rfl, e, rfl, rfl⟩ | ⟨_, rfl, trace⟩
  · exact ⟨created ++ appended, [], turn, by simp, .inl ⟨rfl, e, rfl⟩⟩
  obtain ⟨scanned, rest, r, s₃, start, rfl, outcome⟩ := attempt_trace trace
  have turn := turn.append ((scan_spares space t s₂).trace start)
  have kept := (client_of_trace start).trans kept
  refine ⟨created ++ appended ++ scanned, rest, turn, by simp, ?_⟩
  rcases outcome with ⟨rfl, e, rfl, rfl⟩ | ⟨scan, rfl, trace⟩
  · exact .inl ⟨rfl, e, rfl⟩
  have trace := trace.of_translate_act
  cases verdict : t.verify scan with
  | error failure =>
    rw [verdict] at trace
    cases trace
    exact .inl ⟨rfl, _, rfl⟩
  | ok _ =>
    rw [verdict] at trace
    exact .inr ⟨s₃, kept, trace⟩

theorem writeTables_trace {tables : List Fixture}
    {next : List String → SessionProgram (Except Failure α)} (same : s.client = c)
    (reaches : ∀ t ∈ tables, c.Reaches front space t.name)
    (trace : Trace ((Workload.writeTables space tables next).translate answer s) given
      (result, s')) :
    ∃ turns rest, given = turns.flatten ++ rest ∧
      List.Forall₂ (fun t turn => CreateTurn c front t.name turn) (tables.take turns.length) turns ∧
      ((rest = [] ∧ ∃ table e, result = .error (.write table e)) ∨
        turns.length = tables.length ∧
          ∃ s₁, s₁.client = c ∧
            Trace ((next (tables.map (·.name))).translate answer s₁) rest (result, s')) := by
  induction tables generalizing next s given with
  | nil => exact ⟨[], given, rfl, .nil, .inr ⟨rfl, s, same, trace⟩⟩
  | cons t ts ih =>
    subst same
    obtain ⟨turn, rest, created, rfl, outcome⟩ := writeTable_trace (reaches t (by simp)) trace
    rcases outcome with ⟨rfl, e, rfl⟩ | ⟨s₁, kept, trace⟩
    · exact ⟨[turn], [], by simp, by simpa using created, .inl ⟨rfl, t.name, e, rfl⟩⟩
    · obtain ⟨turns, rest, rfl, each, outcome⟩ :=
        ih kept (fun u member => reaches u (by simp [member])) trace
      refine ⟨turn :: turns, rest, by simp, .cons created each, ?_⟩
      rcases outcome with stopped | ⟨length, s₂, kept, trace⟩
      · exact .inl stopped
      · exact .inr ⟨by simp [length], s₂, kept, trace⟩

theorem dropTables_trace {pairs : List (Fixture × DropMode)}
    {ends : List String × List DropFailure} (same : s.client = c)
    (reaches : ∀ p ∈ pairs, c.Reaches front space p.1.name)
    (trace : Trace ((Workload.dropTables space pairs).translate answer s) given (ends, s')) :
    List.Forall₂ (fun p x => c.Drops front p.1.name p.2.isPurge x.1) pairs given := by
  induction pairs generalizing s given ends with
  | nil =>
    cases trace
    exact .nil
  | cons p ps ih =>
    subst same
    -- A drop that fails is noted, and the next one follows all the same.
    have of_rest {s₁ : RestSession} {rest : List ((_ : Request) × Reply)}
        {note : List String × List DropFailure → List String × List DropFailure}
        (kept : s₁.client = s.client) (others : ∀ q ∈ ps, s.client.Reaches front space q.1.name)
        (trace : Trace (((Workload.dropTables space ps).bind fun found =>
          .done (note found)).translate answer s₁) rest (ends, s')) :
        List.Forall₂ (fun p x => s.client.Drops front p.1.name p.2.isPurge x.1) ps rest := by
      rw [translate_bind] at trace
      obtain ⟨⟨found, s₂⟩, first, last, start, finish, rfl⟩ := trace.of_bind
      cases finish
      simpa using ih kept others start
    obtain ⟨r, s₁, first, rest, start, finish, rfl⟩ := trace.of_translate_call
    obtain ⟨x, rfl, drops⟩ := drop_trace (reaches p (by simp)) start
    have others : ∀ q ∈ ps, s.client.Reaches front space q.1.name :=
      fun q member => reaches q (by simp [member])
    refine .cons drops ?_
    have kept := client_of_trace start
    cases r with
    | error e => exact of_rest kept others finish.of_translate_act
    | ok _ => exact of_rest kept others finish.of_translate_act

theorem runOn_trace {w : Workload} {task : Task} {fixtures : FixtureSet}
    {result : Except Failure Report}
    (trace : Trace ((w.runOn task fixtures).translate answer s) given (result, s')) :
    Trace ((w.task task fixtures).translate answer s) given (result, s') := by
  have trace : Trace (((w.task task fixtures).bind _).translate answer s) given (result, s') :=
    trace.of_translate_act.of_translate_act
  rw [translate_bind] at trace
  obtain ⟨⟨ended, s₁⟩, first, last, start, finish, rfl⟩ := trace.of_bind
  cases ended with
  | error failure =>
    cases finish.of_translate_act
    simpa using start
  | ok report =>
    cases finish.of_translate_act.of_translate_act
    simpa using start

theorem nowhere_or_reaches (c : Client) (space : String) :
    (∀ table, c.Nowhere space table) ∨
      ∃ front, ∀ table : String, Url.Simple table.toList → c.Reaches front space table := by
  cases path : c.config.catalogUrl.path with
  | opaquePath text =>
    refine .inl fun table url found => ?_
    rw [Client.tableUrl_of_opaque path] at found
    cases found
  | segments parts =>
    cases web : c.config.catalogUrl.isWeb with
    | false =>
      refine .inl fun table url found => ?_
      rw [Client.tableUrl_eq path] at found
      cases found
      exact web
    | true =>
      have notFile : Url.isFileScheme c.config.catalogUrl.scheme = false := by
        refine Bool.eq_false_iff.mpr fun file => ?_
        simp [Url.isWeb, beq_iff_eq.mp file] at web
      refine .inr ⟨Url.held (c.tablesPath space parts), fun table simple => ?_⟩
      refine ⟨_, Client.tableUrl_of_plain notFile path space simple.plain, web, ?_, rfl⟩
      simp only [simple.encode_eq]

theorem writePreMigration_trace {w : Workload} {fixtures : FixtureSet}
    {result : Except Failure Report}
    (reaches : ∀ t ∈ fixtures.all, s.client.Reaches front w.space t.name)
    (trace : Trace ((w.writePreMigration fixtures).translate answer s) given (result, s')) :
    ∃ turns drops, given = turns.flatten ++ drops ∧
      List.Forall₂ (fun t turn => CreateTurn s.client front t.name turn)
        (fixtures.all.take turns.length) turns ∧
      ((drops = [] ∧ ∃ table e, result = .error (.write table e)) ∨
        turns.length = fixtures.all.length ∧
          List.Forall₂ (fun p x => s.client.Drops front p.1.name p.2.isPurge x.1)
            fixtures.dropped drops) := by
  obtain ⟨turns, drops, rfl, each, outcome⟩ := writeTables_trace rfl reaches trace
  refine ⟨turns, drops, rfl, each, outcome.imp_right fun ⟨length, s₁, kept, trace⟩ => ⟨length, ?_⟩⟩
  by_cases none : fixtures.dropped = []
  · rw [if_pos none] at trace
    cases trace
    rw [none]
    exact .nil
  · rw [if_neg none] at trace
    have trace : Trace (((Workload.dropTables w.space fixtures.dropped).bind _).translate answer s₁)
      drops (result, s') := trace
    rw [translate_bind] at trace
    obtain ⟨⟨ends, s₂⟩, first, last, start, finish, rfl⟩ := trace.of_bind
    cases finish.of_translate_act.of_translate_act
    rw [List.append_nil]
    exact dropTables_trace kept (fun p member => reaches p.1 (FixtureSet.mem_all_of_dropped member))
      start

section Spared

/-- A request does not drop the table that another one creates. -/
def Unharmed (front : List (List Char)) (x y : (_ : Request) × Reply) : Prop :=
  ∀ table schema, x.1.content = .table table schema → y.1.method = .delete →
    y.1.url.path ≠ .segments (front ++ [table.toList])

theorem path_ne {table other : String} (apart : table ≠ other) :
    UrlPath.segments (front ++ [other.toList]) ≠ .segments (front ++ [table.toList]) := by
  intro same
  have names := List.append_cancel_left (UrlPath.segments.inj same)
  exact apart (String.toList_inj.mp (List.singleton_inj.mp names)).symm

variable {table : String}

theorem CreateTurn.own (turn : CreateTurn c front table given) :
    (∀ x ∈ given, ∀ name schema, x.1.content = .table name schema → name = table) ∧
      ∀ x ∈ given, x.1.method = .delete → c.Drops front table true x.1 := by
  cases turn with
  | unfound checked _ spared =>
    constructor
    · refine List.forall_mem_cons.mpr ⟨fun name schema created => ?_, fun x member => ?_⟩
      · simp [checked.content] at created
      · exact (spared x member).creation
    · refine List.forall_mem_cons.mpr ⟨fun dropped => ?_, fun x member dropped => ?_⟩
      · simp [checked.method] at dropped
      · exact absurd dropped (spared x member).noDrop
  | purged checked _ drop spared =>
    constructor
    · refine List.forall_mem_cons.mpr ⟨fun name schema created => ?_,
        List.forall_mem_cons.mpr ⟨fun name schema created => ?_, fun x member => ?_⟩⟩
      · simp [checked.content] at created
      · simp [drop.content] at created
      · exact (spared x member).creation
    · refine List.forall_mem_cons.mpr ⟨fun dropped => ?_,
        List.forall_mem_cons.mpr ⟨fun _ => drop, fun x member dropped => ?_⟩⟩
      · simp [checked.method] at dropped
      · exact absurd dropped (spared x member).noDrop

theorem exists_of_forall₂ {α β : Type} {R : α → β → Prop} {xs : List α} {ys : List β}
    (each : List.Forall₂ R xs ys) {y : β} (member : y ∈ ys) : ∃ x ∈ xs, R x y := by
  induction each with
  | nil => simp at member
  | @cons x y' xs ys related _ ih =>
    rcases List.mem_cons.mp member with rfl | later
    · exact ⟨x, by simp, related⟩
    · obtain ⟨x', among, related'⟩ := ih later
      exact ⟨x', by simp [among], related'⟩

theorem CreateTurn.unharmed (turn : CreateTurn c front table given) :
    given.Pairwise (Unharmed front) := by
  have later {rest : List ((_ : Request) × Reply)} (spared : ∀ x ∈ rest, Request.Spares table x.1) :
      rest.Pairwise (Unharmed front) :=
    List.pairwise_of_forall_mem_list fun x _ y member name schema _ dropped =>
      absurd dropped (spared y member).noDrop
  have before {x : (_ : Request) × Reply} (empty : x.1.content = .empty)
      (rest : List ((_ : Request) × Reply)) : ∀ y ∈ rest, Unharmed front x y :=
    fun y _ name schema created => by simp [empty] at created
  cases turn with
  | unfound checked _ spared =>
    exact List.pairwise_cons.mpr ⟨before checked.content _, later spared⟩
  | purged checked _ drop spared =>
    exact List.pairwise_cons.mpr ⟨before checked.content _,
      List.pairwise_cons.mpr ⟨before drop.content _, later spared⟩⟩

theorem turns_unharmed {tables : List Fixture} {turns : List (List ((_ : Request) × Reply))}
    (each : List.Forall₂ (fun t turn => CreateTurn c front t.name turn) tables turns)
    (distinct : (tables.map (·.name)).Nodup) : turns.flatten.Pairwise (Unharmed front) := by
  induction each with
  | nil => exact .nil
  | @cons t turn ts turns created others ih =>
    obtain ⟨fresh, distinct⟩ := List.nodup_cons.mp distinct
    rw [List.flatten_cons, List.pairwise_append]
    refine ⟨created.unharmed, ih distinct, fun x member y later name schema creation dropped => ?_⟩
    obtain rfl := created.own.1 x member name schema creation
    obtain ⟨turn', among', found⟩ := List.mem_flatten.mp later
    obtain ⟨u, among, created'⟩ := exists_of_forall₂ others among'
    rw [(created'.own.2 y found dropped).path]
    exact path_ne fun same => fresh (List.mem_map.mpr ⟨u, among, same.symm⟩)

theorem turns_carry {tables : List Fixture} {turns : List (List ((_ : Request) × Reply))}
    (each : List.Forall₂ (fun t turn => CreateTurn c front t.name turn) tables turns) :
    ∀ x ∈ turns.flatten, x.1.method = .delete → ∀ flag,
      x.1.url.Carries flag ↔ flag = true ∨ c.config.catalogUrl.Carries flag := by
  intro x member dropped
  obtain ⟨turn, among, inside⟩ := List.mem_flatten.mp member
  obtain ⟨t, -, created⟩ := exists_of_forall₂ each among
  exact (created.own.2 x inside dropped).carries_iff

theorem maintained_unharmed {fixtures : FixtureSet}
    {turns : List (List ((_ : Request) × Reply))} {drops : List ((_ : Request) × Reply)}
    (each : List.Forall₂ (fun t turn => CreateTurn c front t.name turn)
      (fixtures.all.take turns.length) turns)
    (dropped : ∀ y ∈ drops, ∃ p ∈ fixtures.dropped,
      y.1.url.path = .segments (front ++ [p.1.name.toList])) :
    (turns.flatten ++ drops).Pairwise fun x y => ∀ t ∈ fixtures.maintained, ∀ schema,
      x.1.content = .table t.name schema → y.1.method = .delete →
      y.1.url.path ≠ .segments (front ++ [t.name.toList]) := by
  have distinct : ((fixtures.all.take turns.length).map (·.name)).Nodup := by
    rw [List.map_take]
    exact fixtures.distinct.sublist (List.take_sublist ..)
  -- The drops at the end are of other tables, and names tell the tables apart in their addresses.
  have atEnd : ∀ y ∈ drops, ∀ t ∈ fixtures.maintained,
      y.1.url.path ≠ .segments (front ++ [t.name.toList]) := by
    intro y member t kept
    obtain ⟨p, among, path⟩ := dropped y member
    rw [path]
    exact path_ne (FixtureSet.maintained_name_ne_dropped kept among)
  refine List.pairwise_append.mpr ⟨?_, ?_, fun x _ y member t kept _ _ _ => atEnd y member t kept⟩
  · refine (turns_unharmed each distinct).imp ?_
    intro x y unharmed t _ schema
    exact unharmed t.name schema
  · exact List.pairwise_of_forall_mem_list fun x _ y member t kept _ _ _ => atEnd y member t kept

end Spared

theorem writePreMigration_trace_of_nowhere {w : Workload} {fixtures : FixtureSet}
    {result : Except Failure Report} (nowhere : ∀ table, s.client.Nowhere w.space table)
    (trace : Trace ((w.writePreMigration fixtures).translate answer s) given (result, s')) :
    given = [] ∧ ∃ table e, result = .error (.write table e) := by
  obtain ⟨t, ts, all⟩ := List.exists_cons_of_ne_nil
    (List.append_ne_nil_of_left_ne_nil fixtures.nonempty (fixtures.dropped.map (·.1)))
  have all : fixtures.all = t :: ts := all
  rw [Workload.writePreMigration, all] at trace
  obtain ⟨first, rest, r, s₁, start, rfl, outcome⟩ := attempt_trace trace
  obtain ⟨rfl, e, rfl⟩ := create_trace_of_nowhere (nowhere t.name) start
  rcases outcome with ⟨rfl, e, -, rfl⟩ | ⟨a, failed, -⟩
  · exact ⟨rfl, t.name, e, rfl⟩
  · cases failed

def purgingUrl : Url := localUrl [] (some "purgeRequested=true")

def purgingConfig : WorkloadConfig := { catalogUrl := purgingUrl }

def purgingSession : RestSession where
  client := ⟨{ catalogUrl := purgingUrl.closed, warehouse := "demo" }, none, none⟩
  engine := .ofConfig purgingConfig
  operationTimeout := none

/-- A server that sends an engine on to the address without a query. -/
def redirecting : Host Request (fun _ => Reply) Server := Network localAddress fun r s =>
  if r.url.path = purgingUrl.path then
    (Server.document 200 (.object [("defaults", .object []),
      ("overrides", .object [("uri", .text "http://[::1]:8181/catalog")])]), s)
  else s.reply r

end RestSession

end CatalogMigration
