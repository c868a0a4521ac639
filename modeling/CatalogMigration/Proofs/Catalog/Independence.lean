import CatalogMigration.Proofs.Catalog.Agreement
import CatalogMigration.Proofs.Catalog.Effect
import CatalogMigration.Proofs.Session.Interleaving
import CatalogMigration.Proofs.Workload.Calls

namespace CatalogMigration

open Program

namespace Catalog

variable {α β : Type} {p : SessionProgram α} {q : SessionProgram β} {a b c d e : Catalog}
  {now later : Span} {tables mine yours : TableKey → Prop}

inductive Prepared (tables : TableKey → Prop) (c : Catalog) : SessionProgram α → Prop
  | usable {p : SessionProgram α} (usable : Usable tables c) : Prepared tables c p
  | ensures {space : String} {next : SessionCall.Answer (.ensureNamespace space) → SessionProgram α}
    (spaces : ∀ key, tables key → key.space = space) :
    Prepared tables c (.call (.ensureNamespace space) next)

theorem Prepared.continues (prepared : Prepared tables c p) (continues : Continues c d) :
    Prepared tables d p := by
  cases prepared with
  | usable usable => exact .usable (usable.continues continues)
  | ensures spaces => exact .ensures spaces

theorem usable_ensured {space : String} (spaces : ∀ key, tables key → key.space = space)
    (now : Span) (c : Catalog) : Usable tables (answer (.ensureNamespace space) now c).2.1 := by
  cases reachable : c.unreachable with
  | true => exact .inl ((answer_continues _ now c).unreachable.trans reachable)
  | false =>
    obtain ⟨known, member, ensured⟩ := c.ensureNamespace_fst space
    rw [answer_ensureNamespace reachable, ensured]
    exact .inr fun key own => by rwa [spaces key own]

theorem Prepared.turn (prepared : Prepared tables c p) (now : Span) :
    Prepared tables (p.turn answer now c).state (p.turn answer now c).rest := by
  cases prepared with
  | ensures spaces => exact .usable (usable_ensured spaces now c)
  | usable usable =>
    cases p with
    | done | act => exact .usable usable
    | call call next => exact .usable (usable.continues (answer_continues call now c))

/-- A program about some tables that cannot tell a catalog from one it has to itself. -/
structure Unaware (tables : TableKey → Prop) (p : SessionProgram α) (own shared : Catalog) :
    Prop where
  only : Only (·.Within tables) p
  agree : Agree tables own shared
  prepared : Prepared tables own p
  prepared' : Prepared tables shared p

/-- What a program leaves and is answered is what it would be if it were alone. -/
structure AsAlone (tables : TableKey → Prop) (p : SessionProgram α) (now : Span) (own : Catalog)
    (part : Part SessionCall.Answer α) (after : Catalog) : Prop where
  part : part = p.alone answer now own
  agree : Agree tables (p.outcome answer now own).state after

namespace Unaware

theorem turn (unaware : Unaware tables p c d) (now later : Span) :
    (p.turn answer now c).rest = (p.turn answer later d).rest ∧
      (p.turn answer now c).given = (p.turn answer later d).given ∧
      Unaware tables (p.turn answer later d).rest (p.turn answer now c).state
        (p.turn answer later d).state := by
  obtain ⟨only, agree, prepared, prepared'⟩ := unaware
  have rest := only.turn answer later d
  have ready := prepared.turn now
  have ready' := prepared'.turn later
  cases p with
  | done | act => exact ⟨rfl, rfl, rest, agree, ready, ready'⟩
  | call call next =>
    have alike : (answer call now c).1 = (answer call later d).1 ∧
        Agree tables (answer call now c).2.1 (answer call later d).2.1 := by
      cases prepared with
      | ensures => exact agree.answer_ensureNamespace _ now later
      | usable usable =>
        cases prepared' with
        | ensures => exact agree.answer_ensureNamespace _ now later
        | usable usable' =>
          cases only with
          | call within _ => exact agree.answer within usable usable' now later
    obtain ⟨same, agree⟩ := alike
    simp only [Program.turn] at rest ready ready' ⊢
    rw [same] at ready ⊢
    exact ⟨rfl, rfl, rest, agree, ready, ready'⟩

theorem resume (unaware : Unaware tables p c d) (now later : Span)
    {part : Part SessionCall.Answer α} {after : Catalog}
    (rest : ∀ moment, AsAlone tables (p.turn answer later d).rest moment
      (p.turn answer now c).state part after) :
    AsAlone tables p now c (part.following (p.turn answer later d).given) after := by
  obtain ⟨same, given, -⟩ := unaware.turn now later
  obtain ⟨moment, went, ended⟩ := alone_turn answer p now c
  obtain ⟨parts, agree⟩ := rest moment
  rw [← same] at parts agree
  exact ⟨by rw [went, ← given, parts], by rwa [ended]⟩

theorem elsewhere (unaware : Unaware mine p c d) (changes : ChangesOnly yours d e)
    (apart : ∀ key, mine key → ¬ yours key) : Unaware mine p c e where
  only := unaware.only
  agree := unaware.agree.elsewhere changes apart
  prepared := unaware.prepared
  prepared' := unaware.prepared'.continues changes.continues

theorem outcome (unaware : Unaware tables p c d) (now later : Span) :
    AsAlone tables p now c (p.alone answer later d) (p.outcome answer later d).state := by
  induction p generalizing c d now later with
  | done a => exact ⟨rfl, unaware.agree⟩
  | call call next ih =>
    obtain ⟨-, -, rest⟩ := unaware.turn now later
    exact unaware.resume now later fun moment => ih _ rest moment later
  | act a next ih =>
    obtain ⟨-, -, rest⟩ := unaware.turn now later
    exact unaware.resume now later fun moment => ih rest moment (a.after later)

end Unaware

theorem turn_changesOnly (only : Only (·.Within tables) p) (now : Span) (c : Catalog) :
    ChangesOnly tables c (p.turn answer now c).state :=
  only.turn_invariant (ChangesOnly tables c)
    (fun _ now d within changes => changes.trans (answer_changesOnly within now d)) now (.refl ..)

theorem outcome_changesOnly (only : Only (·.Within tables) p) (now : Span) (c : Catalog) :
    ChangesOnly tables c (p.outcome answer now c).state :=
  only.outcome_invariant (ChangesOnly tables c)
    (fun _ now d within changes => changes.trans (answer_changesOnly within now d)) now (.refl ..)

/-- Two programs about different tables, whatever turns they take. -/
theorem interleave_asAlone {p : SessionProgram α} {q : SessionProgram β}
    (apart : ∀ key, mine key → ¬ yours key) (turns : List (Side × Span)) (now early early' : Span)
    (one : Unaware mine p a c) (two : Unaware yours q b c) :
    let joint := interleave answer turns p q now c
    AsAlone mine p early a joint.first joint.state ∧
      AsAlone yours q early' b joint.second joint.state ∧
      ChangesOnly (fun key => mine key ∨ yours key) c joint.state := by
  have apart' : ∀ key, yours key → ¬ mine key := fun key own other => apart key other own
  intro joint
  induction turns generalizing now early early' p q a b c with
  | nil =>
    have changes := outcome_changesOnly one.only now c
    have two' := two.elsewhere changes apart'
    have changes' := outcome_changesOnly two.only (p.outcome answer now c).now
      (p.outcome answer now c).state
    obtain ⟨part, agree⟩ := one.outcome early now
    exact ⟨⟨part, agree.elsewhere changes' apart⟩, two'.outcome early' _,
      (changes.mono fun _ => .inl).trans (changes'.mono fun _ => .inr)⟩
  | cons step turns ih =>
    obtain ⟨side, moment⟩ := step
    cases side with
    | first =>
      obtain ⟨-, -, one'⟩ := one.turn early moment
      have changes := turn_changesOnly one.only moment c
      have went (early) := ih moment early early' one' (two.elsewhere changes apart')
      exact ⟨one.resume early moment fun later => (went later).1, (went early).2.1,
        (changes.mono fun _ => .inl).trans (went early).2.2⟩
    | second =>
      obtain ⟨-, -, two'⟩ := two.turn early' moment
      have changes := turn_changesOnly two.only moment c
      have went (early') := ih moment early early' (one.elsewhere changes apart) two'
      exact ⟨(went early').1, two.resume early' moment fun later => (went later).2.1,
        (changes.mono fun _ => .inr).trans (went early').2.2⟩

theorem AsAlone.held_eq {q : SessionProgram β} {part part' : Part SessionCall.Answer α}
    {other other' : Part SessionCall.Answer β}
    (one : AsAlone mine p now c part d) (two : AsAlone yours q later c other d)
    (changes : ChangesOnly (fun key => mine key ∨ yours key) c d)
    (one' : AsAlone mine p now c part' e) (two' : AsAlone yours q later c other' e)
    (changes' : ChangesOnly (fun key => mine key ∨ yours key) c e) (key : TableKey) :
    d.held key = e.held key := by
  by_cases first : mine key
  · rw [one.agree.held key first, one'.agree.held key first]
  · by_cases second : yours key
    · rw [two.agree.held key second, two'.agree.held key second]
    · have neither : ¬ (mine key ∨ yours key) := not_or.mpr ⟨first, second⟩
      rw [changes.held key neither, changes'.held key neither]

end Catalog

namespace Workload

variable {w : Workload} {fixtures : FixtureSet}

def Tables (w : Workload) (fixtures : FixtureSet) (key : TableKey) : Prop :=
  ∃ t ∈ fixtures.all, key = t.key w.space

theorem Issues.within {call : SessionCall} (issued : w.Issues fixtures call) :
    call.Within (w.Tables fixtures) := by
  intro key about
  cases call with
  | ensureNamespace => cases about
  | create space t | append space t rows | scan space t =>
    obtain ⟨rfl, member⟩ := issued
    exact ⟨t, member, (Option.some.inj about).symm⟩
  | drop space t mode =>
    obtain ⟨rfl, member⟩ := issued
    exact ⟨t, FixtureSet.mem_all_of_dropped member, (Option.some.inj about).symm⟩

theorem start_unaware (w : Workload) (task : Task) (fixtures : FixtureSet) (c : Catalog) :
    Catalog.Unaware (w.Tables fixtures) (w.start (w.runOn task fixtures)) c c := by
  have prepared : Catalog.Prepared (w.Tables fixtures) c (w.start (w.runOn task fixtures)) := by
    refine .ensures ?_
    rintro key ⟨t, -, rfl⟩
    rfl
  refine ⟨(start_only w (runOn_only w task fixtures)).mono fun call issued => ?_, .refl _ c,
    prepared, prepared⟩
  rcases issued with rfl | issued
  · exact nofun
  · exact issued.within

/-- Two runs on disjoint sets of tables that share a catalog, whatever turns they take: either
makes the calls it makes alone, is answered alike and has the same result, and they leave the
tables, live or softly dropped, that they leave one after the other, in either order. -/
theorem disjoint_runs_independent (v w : Workload) (task task' : Task) (ours theirs : FixtureSet)
    (apart : ∀ t ∈ ours.all, ∀ u ∈ theirs.all, t.name ≠ u.name) (c : Catalog) (now : Span)
    (turns : List (Side × Span)) :
    let p := v.start (v.runOn task ours)
    let q := w.start (w.runOn task' theirs)
    let joint := interleave Catalog.answer turns p q now c
    let one := p.outcome Catalog.answer now c
    let other := q.outcome Catalog.answer now c
    joint.first = p.alone Catalog.answer now c ∧ joint.second = q.alone Catalog.answer now c ∧
    (∀ key, joint.state.held key =
      (q.outcome Catalog.answer one.now one.state).state.held key) ∧
    ∀ key, joint.state.held key =
      (p.outcome Catalog.answer other.now other.state).state.held key := by
  have disjoint : ∀ key, v.Tables ours key → ¬ w.Tables theirs key := by
    rintro key ⟨t, member, rfl⟩ ⟨u, member', same⟩
    exact apart t member u member' (congrArg TableKey.table same)
  have disjoint' : ∀ key, w.Tables theirs key → ¬ v.Tables ours key :=
    fun key own other => disjoint key other own
  have first := start_unaware v task ours c
  have second := start_unaware w task' theirs c
  intro p q joint one other
  obtain ⟨went, went', changes⟩ :=
    Catalog.interleave_asAlone disjoint turns now now now first second
  -- One after the other they take turns as well.
  obtain ⟨inOrder, inOrder', changes'⟩ :=
    Catalog.interleave_asAlone disjoint [] now now now first second
  obtain ⟨reversed', reversed, changes''⟩ :=
    Catalog.interleave_asAlone disjoint' [] now now now second first
  refine ⟨went.part, went'.part, ?_, ?_⟩
  · exact went.held_eq went' changes inOrder inOrder' changes'
  · exact went.held_eq went' changes reversed reversed' (changes''.mono fun _ => Or.symm)

/-- A read that finds a table empty and a write after a migration that cannot fill its own, turn and
turn about. -/
theorem failing_write_beside_failing_read :
    let w : Workload := ⟨"http://localhost:8181/catalog", "my_namespace", .ofSeconds 2⟩
    let c := (Catalog.empty (.ofSeconds 60)).after
      [(.zero, .call (.ensureNamespace "my_namespace")),
        (.zero, .call (.create "my_namespace" (.maintained "my_table_0"))),
        (.zero, .call (.append "my_namespace" (.maintained "my_table_0") fixtureRows)),
        (.zero, .call (.create "my_namespace" (.maintained "my_table_1"))),
        (.zero, .failAppendsTo "my_table_post_migration_0")]
    let turns := (List.range 10).flatMap fun i =>
      [(Side.second, Span.ofSeconds i), (Side.first, Span.ofSeconds i)]
    let p := w.start (w.runOn .read .read)
    let q := w.start (w.runOn .writePostMigration .postMigration)
    let joint := interleave Catalog.answer turns p q .zero c
    let one := p.outcome Catalog.answer .zero c
    (∀ t ∈ FixtureSet.read.all, ∀ u ∈ FixtureSet.postMigration.all, t.name ≠ u.name) ∧
    (p.alone Catalog.answer .zero c).result =
      .error (.read "my_table_1" (.rowMismatch (sortedRows fixtureRows) [])) ∧
    joint.first = p.alone Catalog.answer .zero c ∧
    joint.second = q.alone Catalog.answer .zero c ∧
    ∀ key, joint.state.held key =
      (q.outcome Catalog.answer one.now one.state).state.held key := by
  intro w c turns p q joint one
  have apart : ∀ t ∈ FixtureSet.read.all, ∀ u ∈ FixtureSet.postMigration.all, t.name ≠ u.name := by
    decide
  have failed : (p.alone Catalog.answer .zero c).result =
      .error (.read "my_table_1" (.rowMismatch (sortedRows fixtureRows) [])) := by
    subst p c w
    decide +kernel
  obtain ⟨first, second, left, -⟩ := disjoint_runs_independent w w .read .writePostMigration .read
    .postMigration apart c .zero turns
  exact ⟨apart, failed, first, second, left⟩

end Workload

end CatalogMigration
