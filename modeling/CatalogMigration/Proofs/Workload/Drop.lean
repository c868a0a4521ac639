import CatalogMigration.Proofs.Session.Steps
import CatalogMigration.Workload.Run

namespace CatalogMigration

open Program

/-- One drop of a table: the answer to it and what the session logged meanwhile. -/
structure DropAttempt where
  table : Fixture
  mode : DropMode
  answer : Except SessionError Unit
  events : List Event

namespace DropAttempt

/-- The event that tells how a drop went. -/
def event (a : DropAttempt) : Event :=
  match a.answer with
  | .ok () => ⟨.info, "migration_tests::workload", "dropped table",
      [("table", .text a.table.name), ("mode", .rendered a.mode.display)]⟩
  | .error e => ⟨.warn, "migration_tests::workload", "failed to drop table",
      [("table", .text a.table.name), ("mode", .rendered a.mode.display),
        ("error", .rendered e.message)]⟩

def steps (space : String) (a : DropAttempt) : List SessionStep :=
  [.answered (.drop space a.table a.mode) a.answer a.events, .acted (.log a.event)]

def dropped? (a : DropAttempt) : Option String :=
  match a.answer with
  | .ok () => some a.table.name
  | .error _ => none

def failure? (a : DropAttempt) : Option DropFailure :=
  match a.answer with
  | .ok () => none
  | .error e => some ⟨a.table.name, a.mode, e⟩

theorem answers_steps (space : String) (attempts : List DropAttempt) :
    answers (attempts.flatMap (·.steps space)) =
      attempts.map fun a => ⟨.drop space a.table a.mode, a.answer⟩ := by
  induction attempts with
  | nil => rfl
  | cons a rest ih =>
    rw [List.flatMap_cons, answers_append, ih]
    rfl

theorem drops_steps {space : String} {attempts : List DropAttempt}
    {pairs : List (Fixture × DropMode)}
    (order : attempts.map (fun a => (a.table, a.mode)) = pairs) :
    (calls (attempts.flatMap (·.steps space))).filter (·.isDrop) =
      pairs.map fun p => .drop space p.1 p.2 := by
  rw [calls_eq_answers, answers_steps, ← order, List.map_map, List.map_map]
  exact List.filter_eq_self.mpr (by simp [SessionCall.isDrop])

theorem acts_steps (space : String) (attempts : List DropAttempt) :
    acts (attempts.flatMap (·.steps space)) = attempts.map (.log ·.event) := by
  induction attempts with
  | nil => rfl
  | cons a rest ih =>
    rw [List.flatMap_cons, acts_append, ih]
    rfl

theorem waits_steps (space : String) (attempts : List DropAttempt) :
    waits (attempts.flatMap (·.steps space)) = [] := by
  rw [waits, acts_steps, List.filterMap_eq_nil_iff]
  intro act member
  obtain ⟨a, -, rfl⟩ := List.mem_map.mp member
  rfl

theorem failures_eq_nil_iff {attempts : List DropAttempt} :
    attempts.filterMap failure? = [] ↔ ∀ a ∈ attempts, a.answer = .ok () := by
  simp only [List.filterMap_eq_nil_iff]
  refine forall₂_congr fun a _ => ?_
  unfold failure?
  cases a.answer <;> simp

theorem dropped_of_ok {attempts : List DropAttempt} (ok : ∀ a ∈ attempts, a.answer = .ok ()) :
    attempts.filterMap dropped? = attempts.map (·.table.name) := by
  induction attempts with
  | nil => rfl
  | cons a rest ih =>
    have first : a.dropped? = some a.table.name := by simp [dropped?, ok a (by simp)]
    rw [List.filterMap_cons_some first, List.map_cons, ih fun b member => ok b (by simp [member])]

end DropAttempt

namespace Workload

def waitEvent (span : Span) : Event :=
  ⟨.info, "migration_tests::workload", "waiting for soft-deleted tables to expire",
    [("wait", .rendered span.display)]⟩

theorem dropEvent_ne_wait (a : DropAttempt) (span : Span) : a.event ≠ waitEvent span := by
  unfold DropAttempt.event
  cases a.answer <;> simp [waitEvent]

variable {σ : Type} (host : SessionHost σ)

theorem dropTables_goesOn (space : String) (now : Span) (pairs : List (Fixture × DropMode))
    (s : σ) :
    ∃ (attempts : List DropAttempt) (s' : σ), attempts.map (fun a => (a.table, a.mode)) = pairs ∧
      GoesOn host (dropTables space pairs) now s (attempts.flatMap (·.steps space))
        (.done (attempts.filterMap (·.dropped?), attempts.filterMap (·.failure?))) now s' := by
  induction pairs generalizing s with
  | nil => exact ⟨[], s, rfl, .refl⟩
  | cons pair rest ih =>
    obtain ⟨t, mode⟩ := pair
    rcases dropped : host (.drop space t mode) now s with ⟨answer, s₁, events⟩
    obtain ⟨attempts, s₂, order, goes⟩ := ih s₁
    refine ⟨⟨t, mode, answer, events⟩ :: attempts, s₂, by simp [order], ?_⟩
    cases answer with
    | ok _ => exact (GoesOn.call _ dropped).trans ((GoesOn.act _).trans (goes.bind _))
    | error e => exact (GoesOn.call _ dropped).trans ((GoesOn.act _).trans (goes.bind _))

section Cons

variable {host} {space : String} {t : Fixture} {mode : DropMode} {now : Span} {s s' : σ}
  {events : List Event} (rest : List (Fixture × DropMode))

theorem dropTables_cons_ok (answered : host (.drop space t mode) now s = (.ok (), s', events)) :
    (dropTables space ((t, mode) :: rest)).outcome host now s =
      let others := (dropTables space rest).outcome host now s'
      ⟨(t.name :: others.result.1, others.result.2), others.now, others.state⟩ := by
  rw [dropTables, ((GoesOn.call _ answered).trans (.act _)).outcome]
  exact outcome_bind ..

theorem dropTables_cons_error {e : SessionError}
    (answered : host (.drop space t mode) now s = (.error e, s', events)) :
    (dropTables space ((t, mode) :: rest)).outcome host now s =
      let others := (dropTables space rest).outcome host now s'
      ⟨(others.result.1, ⟨t.name, mode, e⟩ :: others.result.2), others.now, others.state⟩ := by
  rw [dropTables, ((GoesOn.call _ answered).trans (.act _)).outcome]
  exact outcome_bind ..

end Cons

def afterWrites (w : Workload) (fixtures : FixtureSet) (written : List String) :
    SessionProgram (Except Failure Report) :=
  let report := { Report.start .writePreMigration with written }
  if fixtures.dropped = [] then .done (.ok report)
  else do
    let (dropped, failures) ← dropTables w.space fixtures.dropped
    .perform (waiting w.softDeleteWait)
    .perform (.wait w.softDeleteWait)
    return if failures = [] then .ok { report with dropped, waited := w.softDeleteWait }
      else .error (.drop failures)

theorem writePreMigration_eq (w : Workload) (fixtures : FixtureSet) :
    w.writePreMigration fixtures = writeTables w.space fixtures.all (w.afterWrites fixtures) := rfl

theorem afterWrites_goesOn_of_none_dropped (w : Workload) (fixtures : FixtureSet)
    (none_dropped : fixtures.dropped = []) (now : Span) (s : σ) :
    GoesOn host (w.afterWrites fixtures (fixtures.all.map (·.name))) now s []
      (.done (.ok ⟨.writePreMigration, fixtures.all.map (·.name), [], [], .zero⟩)) now s := by
  rw [afterWrites, if_pos none_dropped]
  exact .refl

theorem afterWrites_outcome (w : Workload) (fixtures : FixtureSet)
    (some_dropped : fixtures.dropped ≠ []) (now : Span) (s : σ) :
    (w.afterWrites fixtures (fixtures.all.map (·.name))).outcome host now s =
      let drops := (dropTables w.space fixtures.dropped).outcome host now s
      ⟨if drops.result.2 = [] then
          .ok ⟨.writePreMigration, fixtures.all.map (·.name), drops.result.1, [], w.softDeleteWait⟩
        else .error (.drop drops.result.2),
        Act.after drops.now (.wait w.softDeleteWait), drops.state⟩ := by
  rw [afterWrites, if_neg some_dropped]
  exact outcome_bind ..

def dropResult (w : Workload) (fixtures : FixtureSet) (attempts : List DropAttempt) :
    Except Failure Report :=
  if attempts.filterMap (·.failure?) = [] then
    .ok ⟨.writePreMigration, fixtures.all.map (·.name), attempts.filterMap (·.dropped?), [],
      w.softDeleteWait⟩
  else .error (.drop (attempts.filterMap (·.failure?)))

theorem afterWrites_goesOn (w : Workload) (fixtures : FixtureSet)
    (some_dropped : fixtures.dropped ≠ []) (now : Span) (s : σ) :
    ∃ (attempts : List DropAttempt) (s' : σ),
      attempts.map (fun a => (a.table, a.mode)) = fixtures.dropped ∧
      GoesOn host (w.afterWrites fixtures (fixtures.all.map (·.name))) now s
        (attempts.flatMap (·.steps w.space) ++
          [.acted (.log (waitEvent w.softDeleteWait)), .acted (.wait w.softDeleteWait)])
        (.done (dropResult w fixtures attempts)) (Act.after now (.wait w.softDeleteWait)) s' := by
  obtain ⟨attempts, s', order, goes⟩ := dropTables_goesOn host w.space now fixtures.dropped s
  refine ⟨attempts, s', order, ?_⟩
  rw [afterWrites, if_neg some_dropped]
  exact (goes.bind _).trans ((GoesOn.act _).trans (GoesOn.act _))

theorem dropResult_of_ok {w : Workload} {fixtures : FixtureSet} {attempts : List DropAttempt}
    (order : attempts.map (fun a => (a.table, a.mode)) = fixtures.dropped)
    (ok : ∀ a ∈ attempts, a.answer = .ok ()) :
    dropResult w fixtures attempts = .ok ⟨.writePreMigration, fixtures.all.map (·.name),
      fixtures.dropped.map (·.1.name), [], w.softDeleteWait⟩ := by
  have names : attempts.map (·.table.name) = fixtures.dropped.map (·.1.name) := by
    rw [← order, List.map_map]
    rfl
  rw [dropResult, if_pos (DropAttempt.failures_eq_nil_iff.mpr ok), DropAttempt.dropped_of_ok ok,
    names]

theorem written_of_dropResult {w : Workload} {fixtures : FixtureSet} {attempts : List DropAttempt}
    {report : Report} (ok : dropResult w fixtures attempts = .ok report) :
    report.written = fixtures.all.map (·.name) := by
  unfold dropResult at ok
  split at ok
  · cases ok
    rfl
  · cases ok

theorem dropResult_of_failed {w : Workload} {fixtures : FixtureSet} {attempts : List DropAttempt}
    (failed : ¬ ∀ a ∈ attempts, a.answer = .ok ()) :
    dropResult w fixtures attempts = .error (.drop (attempts.filterMap (·.failure?))) :=
  if_neg (mt DropAttempt.failures_eq_nil_iff.mp failed)

end Workload

end CatalogMigration
