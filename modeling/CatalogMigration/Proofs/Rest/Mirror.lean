import CatalogMigration.Proofs.Catalog.Answer
import CatalogMigration.Proofs.Rest.Local

namespace CatalogMigration

open Program

def SessionProgram.each : List SessionCall → SessionProgram (List ((c : SessionCall) × c.Answer))
  | [] => .done []
  | c :: cs => .call c fun r => (each cs).bind fun rest => .done (⟨c, r⟩ :: rest)

namespace SessionCall

/-- Calls for a namespace and its tables of simple names and the fixture schema. -/
inductive Usual (space : String) : SessionCall → Prop
  | ensureNamespace : Usual space (.ensureNamespace space)
  | create {t : Fixture} (simple : Url.Simple t.name.toList) (schema : t.schema = .fixture) :
    Usual space (.create space t)
  | append {t : Fixture} {rows : List Row} (simple : Url.Simple t.name.toList)
    (schema : t.schema = .fixture) (some_row : rows ≠ []) : Usual space (.append space t rows)
  | scan {t : Fixture} (simple : Url.Simple t.name.toList) (schema : t.schema = .fixture) :
    Usual space (.scan space t)
  | drop {t : Fixture} (simple : Url.Simple t.name.toList) (schema : t.schema = .fixture)
    (mode : DropMode) : Usual space (.drop space t mode)

/-- Answers to a call that are the same but for the order of rows. The only errors are that
something is missing. -/
inductive Alike : ((c : SessionCall) × c.Answer) → ((c : SessionCall) × c.Answer) → Prop
  | missing (c : SessionCall) (what : String) :
    Alike ⟨c, .error (.notFound what)⟩ ⟨c, .error (.notFound what)⟩
  | done (c : SessionCall) (r : c.Result) : Alike ⟨c, .ok r⟩ ⟨c, .ok r⟩
  | scanned (space : String) (t : Fixture) {a b : TableScan} (schema : a.schema = b.schema)
    (rows : a.rows.Perm b.rows) : Alike ⟨.scan space t, .ok a⟩ ⟨.scan space t, .ok b⟩

end SessionCall

structure StoredTable.Same (a b : StoredTable) : Prop where
  first : a.schema = .fixture
  second : b.schema = .fixture
  rows : a.rows.Perm b.rows

/-- A catalog without faults that holds the same tables of a namespace as another keeps. -/
structure Catalog.Mirrors (space : String) (c : Catalog) (v : KeptSpace) : Prop where
  reachable : c.unreachable = false
  appends : c.failingAppends = []
  drops : c.failingDrops = []
  tables : ∀ table, Option.Rel StoredTable.Same (c.live.get? ⟨space, table⟩) (v.tables table)

namespace Catalog.Mirrors

variable {space : String} {c d : Catalog} {v : KeptSpace}

theorem continued (mirrors : c.Mirrors space v) (continues : Continues c d) {w : KeptSpace}
    (tables : ∀ table, Option.Rel StoredTable.Same (d.live.get? ⟨space, table⟩) (w.tables table)) :
    d.Mirrors space w :=
  ⟨continues.unreachable.trans mirrors.reachable, continues.failingAppends.trans mirrors.appends,
    continues.failingDrops.trans mirrors.drops, tables⟩

theorem put (mirrors : c.Mirrors space v) (continues : Continues c d) {name : String}
    {a b : Option StoredTable} (same : Option.Rel StoredTable.Same a b)
    (changed : ∀ table, d.live.get? ⟨space, table⟩ =
      if table = name then a else c.live.get? ⟨space, table⟩) : d.Mirrors space (v.put name b) :=
  mirrors.continued continues (KeptSpace.put_related mirrors.tables same changed)

theorem found (mirrors : c.Mirrors space v) (t : Fixture) :
    c.live.get? (t.key space) = none ∧ v.tables t.name = none ∨
    ∃ a b, c.live.get? (t.key space) = some a ∧ v.tables t.name = some b ∧ a.Same b :=
  related_ends (mirrors.tables t.name)

theorem stored (mirrors : c.Mirrors space v) (t : Fixture) :
    ∀ old, v.tables t.name = some old → old.schema = .fixture := by
  intro old live
  rcases mirrors.found t with ⟨-, missing⟩ | ⟨a, b, -, found, same⟩
  · cases missing.symm.trans live
  · exact Option.some.inj (found.symm.trans live) ▸ same.second

end Catalog.Mirrors

namespace RestSession

open SessionCall

variable {σ : Type} {host : Host Request (fun _ => Reply) σ} {keeps : σ → KeptSpace → Prop}
  {space : String} {c : Catalog} {v : KeptSpace} {s : RestSession} {state : σ}

structure Beside (host : Host Request (fun _ => Reply) σ) (keeps : σ → KeptSpace → Prop)
    (space : String) (c : Catalog) (s : RestSession) (state : σ) : Prop where
  attended : Attended host keeps space s
  mirrored : ∃ v, keeps state v ∧ v.known = true ∧ c.Mirrors space v
  known : space ∈ c.spaces

def Agrees (host : Host Request (fun _ => Reply) σ) (keeps : σ → KeptSpace → Prop) (space : String)
    (call : SessionCall) (c : Catalog) (now : Span) (s : RestSession) (state : σ) : Prop :=
  Ensures host (answer call s) state fun r after =>
    Alike ⟨call, (Catalog.answer call now c).1⟩ ⟨call, r.1⟩ ∧
      Beside host keeps space (Catalog.answer call now c).2.1 r.2 after

theorem ensureNamespace_agrees (attended : Attended host keeps space s) (kept : keeps state v)
    (mirrors : c.Mirrors space v) (now : Span) :
    Agrees host keeps space (.ensureNamespace space) c now s state := by
  have continues := Catalog.answer_continues (.ensureNamespace space) now c
  rw [Agrees, Catalog.answer_ensureNamespace mirrors.reachable] at *
  obtain ⟨spaces, known, ensured⟩ := Catalog.ensureNamespace_fst c space
  refine (ensureNamespace_ensures attended kept).mono ?_
  rintro ⟨_, s'⟩ after ⟨rfl, attended, kept⟩
  refine ⟨.done (.ensureNamespace space) (), attended,
    ⟨_, kept, rfl, mirrors.continued continues ?_⟩, ?_⟩
  · rw [ensured]
    exact mirrors.tables
  · rw [ensured]
    exact known

theorem each_cons_alike {now : Span} {call : SessionCall} {calls : List SessionCall}
    (agrees : Agrees host keeps space call c now s state)
    (follows : ∀ {c : Catalog} {s : RestSession} {state : σ}, Beside host keeps space c s state →
      Ensures host ((SessionProgram.each calls).translate answer s) state fun r _ =>
        List.Forall₂ Alike ((SessionProgram.each calls).outcome Catalog.answer now c).result r.1) :
    Ensures host ((SessionProgram.each (call :: calls)).translate answer s) state fun r _ =>
      List.Forall₂ Alike
        ((SessionProgram.each (call :: calls)).outcome Catalog.answer now c).result r.1 := by
  rw [SessionProgram.each, Program.translate]
  refine .bind (agrees.mono ?_)
  rintro ⟨r, s'⟩ after ⟨alike, beside⟩
  dsimp only
  rw [translate_bind]
  refine .bind ((follows beside).mono ?_)
  rintro ⟨rest, last⟩ final same
  refine .done ?_
  rw [Program.outcome, outcome_bind]
  exact .cons alike same

section Beside

variable (beside : Beside host keeps space c s state) (now : Span)

include beside

theorem create_agrees {t : Fixture} (simple : Url.Simple t.name.toList)
    (schema : t.schema = .fixture) : Agrees host keeps space (.create space t) c now s state := by
  obtain ⟨attended, ⟨v, kept, known, mirrors⟩, knows⟩ := beside
  have continues := Catalog.answer_continues (.create space t) now c
  rw [Agrees, Catalog.answer_create mirrors.reachable knows] at *
  refine (create_ensures attended simple schema kept known).mono ?_
  rintro ⟨_, s'⟩ after ⟨rfl, attended, kept⟩
  have empty : StoredTable.Same ⟨t.schema, []⟩ ⟨t.schema, []⟩ := ⟨schema, schema, .nil⟩
  exact ⟨.done (.create space t) (), attended, ⟨_, kept, known, mirrors.put continues (.some empty)
    (c.live.get?_insert_table space t.name · _)⟩, knows⟩

theorem append_agrees {t : Fixture} {rows : List Row} (simple : Url.Simple t.name.toList)
    (some_row : rows ≠ []) : Agrees host keeps space (.append space t rows) c now s state := by
  obtain ⟨attended, ⟨v, kept, known, mirrors⟩, knows⟩ := beside
  have accepted : t.name ∉ c.failingAppends := by simp [mirrors.appends]
  have continues := Catalog.answer_continues (.append space t rows) now c
  refine (append_ensures attended simple some_row kept (mirrors.stored t)).mono ?_
  rintro ⟨r, s'⟩ after ⟨attended, told⟩
  rcases mirrors.found t with ⟨lost, missing⟩ | ⟨a, b, found, live, same⟩
  · rw [missing] at told
    obtain ⟨rfl, kept⟩ := told
    rw [Catalog.answer_append_of_lost mirrors.reachable accepted lost]
    exact ⟨.missing (.append space t rows) (t.key space).display, attended,
      ⟨v, kept, known, mirrors⟩, knows⟩
  · rw [live] at told
    obtain ⟨rfl, kept⟩ := told
    rw [Catalog.answer_append mirrors.reachable accepted found] at continues ⊢
    have grown : StoredTable.Same ⟨a.schema, a.rows ++ rows⟩ ⟨b.schema, b.rows ++ rows⟩ :=
      ⟨same.first, same.second, same.rows.append_right rows⟩
    exact ⟨.done (.append space t rows) (), attended,
      ⟨_, kept, known, mirrors.put continues (.some grown)
        (c.live.get?_insert_table space t.name · _)⟩, knows⟩

theorem scan_agrees {t : Fixture} (simple : Url.Simple t.name.toList)
    (schema : t.schema = .fixture) : Agrees host keeps space (.scan space t) c now s state := by
  obtain ⟨attended, ⟨v, kept, known, mirrors⟩, knows⟩ := beside
  refine (scan_ensures attended simple schema kept (mirrors.stored t)).mono ?_
  rintro ⟨r, s'⟩ after ⟨attended, kept, told⟩
  rw [Catalog.answer_scan mirrors.reachable]
  refine ⟨?_, attended, ⟨v, kept, known, mirrors⟩, knows⟩
  rcases mirrors.found t with ⟨lost, missing⟩ | ⟨a, b, found, live, same⟩
  · rw [missing] at told
    obtain rfl : r = _ := told
    rw [Catalog.scan_of_lost lost]
    exact .missing (.scan space t) (t.key space).display
  · rw [live] at told
    obtain ⟨rows, rfl, read⟩ := told
    rw [Catalog.scan_of_found found]
    exact .scanned space t (same.first.trans same.second.symm) (same.rows.trans read.symm)

theorem drop_agrees {t : Fixture} (simple : Url.Simple t.name.toList) (mode : DropMode) :
    Agrees host keeps space (.drop space t mode) c now s state := by
  obtain ⟨attended, ⟨v, kept, known, mirrors⟩, knows⟩ := beside
  have accepted : t.name ∉ c.failingDrops := by simp [mirrors.drops]
  have continues := Catalog.answer_continues (.drop space t mode) now c
  refine (drop_ensures attended simple mode kept).mono ?_
  rintro ⟨r, s'⟩ after ⟨attended, told⟩
  rcases mirrors.found t with ⟨lost, missing⟩ | ⟨a, b, found, live, same⟩
  · rw [missing] at told
    obtain ⟨rfl, kept⟩ := told
    rw [Catalog.answer_drop_of_lost mirrors.reachable accepted lost]
    exact ⟨.missing (.drop space t mode) (t.key space).display, attended,
      ⟨v, kept, known, mirrors⟩, knows⟩
  · rw [live] at told
    obtain ⟨rfl, kept⟩ := told
    obtain ⟨answered, left⟩ := Catalog.answer_drop_of_found mirrors.reachable accepted found
    rw [answered]
    refine ⟨.done (.drop space t mode) (), attended, ⟨_, kept, known,
      mirrors.put continues .none fun table => ?_⟩, continues.spaces knows⟩
    rw [left]
    exact c.live.get?_erase_table space t.name table

theorem answer_agrees {call : SessionCall} (usual : call.Usual space) :
    Agrees host keeps space call c now s state := by
  cases usual with
  | ensureNamespace =>
    obtain ⟨attended, ⟨v, kept, -, mirrors⟩, -⟩ := beside
    exact ensureNamespace_agrees attended kept mirrors now
  | create simple schema => exact create_agrees beside now simple schema
  | append simple _ some_row => exact append_agrees beside now simple some_row
  | scan simple schema => exact scan_agrees beside now simple schema
  | drop simple _ mode => exact drop_agrees beside now simple mode

theorem each_alike {calls : List SessionCall} (usual : ∀ call ∈ calls, call.Usual space) :
    Ensures host ((SessionProgram.each calls).translate answer s) state fun r _ =>
      List.Forall₂ Alike ((SessionProgram.each calls).outcome Catalog.answer now c).result r.1 := by
  induction calls generalizing c s state with
  | nil => exact .done .nil
  | cons call calls ih =>
    obtain ⟨here, later⟩ := List.forall_mem_cons.mp usual
    exact each_cons_alike (answer_agrees beside now here) fun beside => ih beside later

end Beside

/-- Whatever is asked of a namespace once it is made sure of, a session over requests answers as a
catalog in memory does that starts with the same tables, but for the order of the rows. -/
theorem answers_alike {calls : List SessionCall} (attended : Attended host keeps space s)
    (kept : keeps state v) (mirrors : c.Mirrors space v)
    (usual : ∀ call ∈ calls, call.Usual space) (now later : Span) :
    let program := SessionProgram.each (.ensureNamespace space :: calls)
    List.Forall₂ Alike (program.outcome Catalog.answer now c).result
      ((program.translate answer s).outcome host later state).result.1 :=
  each_cons_alike (ensureNamespace_agrees attended kept mirrors now)
    (fun beside => each_alike beside now usual) later

/-- Calls that find a table, miss it, make it anew and take it away in both ways. -/
def changingCalls : List SessionCall :=
  let t : Fixture := .dropped "my-table_0" .purge
  [.append "my_namespace" t fixtureRows, .create "my_namespace" t,
    .append "my_namespace" t (⟨none, none, none⟩ :: fixtureRows), .scan "my_namespace" t,
    .create "my_namespace" t, .drop "my_namespace" t .soft, .drop "my_namespace" t .purge]

theorem changingCalls_alike :
    let v : KeptSpace := ⟨false, fun _ => none⟩
    let program := SessionProgram.each (.ensureNamespace "my_namespace" :: changingCalls)
    Attended tablesHost (Server.Has "my_namespace") "my_namespace" localSession ∧
      Server.Has "my_namespace" {} v ∧ (Catalog.empty ⟨0⟩).Mirrors "my_namespace" v ∧
      (∀ call ∈ changingCalls, call.Usual "my_namespace") ∧
      List.Forall₂ Alike (program.outcome Catalog.answer ⟨0⟩ (Catalog.empty ⟨0⟩)).result
        ((program.translate answer localSession).outcome tablesHost ⟨0⟩ {}).result.1 := by
  intro v program
  have has : Server.Has "my_namespace" {} v := ⟨rfl, by simp [v], fun _ => .none⟩
  have mirrors : (Catalog.empty ⟨0⟩).Mirrors "my_namespace" v := ⟨rfl, rfl, rfl, fun _ => .none⟩
  have simple : Url.Simple "my-table_0".toList := by decide
  have some_row (rows : List Row) (r : Row) : r :: rows ≠ [] := List.cons_ne_nil r rows
  have usual : ∀ call ∈ changingCalls, call.Usual "my_namespace" := by
    refine List.forall_mem_cons.mpr ⟨.append simple rfl (some_row _ _), ?_⟩
    refine List.forall_mem_cons.mpr ⟨.create simple rfl, ?_⟩
    refine List.forall_mem_cons.mpr ⟨.append simple rfl (some_row _ _), ?_⟩
    refine List.forall_mem_cons.mpr ⟨.scan simple rfl, ?_⟩
    refine List.forall_mem_cons.mpr ⟨.create simple rfl, ?_⟩
    refine List.forall_mem_cons.mpr ⟨.drop simple rfl .soft, ?_⟩
    exact List.forall_mem_singleton.mpr (.drop simple rfl .purge)
  exact ⟨localSession_attended, has, mirrors, usual,
    answers_alike localSession_attended has mirrors usual ⟨0⟩ ⟨0⟩⟩

end RestSession

end CatalogMigration
