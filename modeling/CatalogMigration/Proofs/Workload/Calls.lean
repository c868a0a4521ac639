import CatalogMigration.Proofs.Session.Calls
import CatalogMigration.Workload.Run

namespace CatalogMigration

open Program

theorem SessionProgram.attempt_only {α : Type} {P : SessionCall → Prop} {c : SessionCall}
    {failure : SessionError → Failure} {next : c.Result → SessionProgram (Except Failure α)}
    (holds : P c) (rest : ∀ r, Only P (next r)) :
    Only P (SessionProgram.attempt c failure next) := by
  refine .call holds fun r => ?_
  cases r with
  | error e => exact .done _
  | ok r => exact rest r

namespace Workload

/-- The calls of a task on a set of tables. -/
def Issues (w : Workload) (fixtures : FixtureSet) : SessionCall → Prop
  | .ensureNamespace _ => False
  | .create space t | .append space t _ | .scan space t => space = w.space ∧ t ∈ fixtures.all
  | .drop space t mode => space = w.space ∧ (t, mode) ∈ fixtures.dropped

variable {w : Workload} {fixtures : FixtureSet} {P : SessionCall → Prop} {α : Type}

theorem writeTables_only {tables : List Fixture}
    {next : List String → SessionProgram (Except Failure α)}
    (issued : ∀ t ∈ tables, t ∈ fixtures.all)
    (rest : ∀ names, Only (w.Issues fixtures) (next names)) :
    Only (w.Issues fixtures) (writeTables w.space tables next) := by
  induction tables generalizing next with
  | nil => exact rest []
  | cons t ts ih =>
    have member : t ∈ fixtures.all := issued t (by simp)
    refine SessionProgram.attempt_only ⟨rfl, member⟩ fun _ =>
      SessionProgram.attempt_only ⟨rfl, member⟩ fun _ =>
      SessionProgram.attempt_only ⟨rfl, member⟩ fun scan => .act _ ?_
    cases t.verify scan with
    | error failure => exact .done _
    | ok _ => exact ih (fun u others => issued u (by simp [others])) fun names => rest _

theorem dropTables_only {pairs : List (Fixture × DropMode)}
    (issued : ∀ p ∈ pairs, p ∈ fixtures.dropped) :
    Only (w.Issues fixtures) (dropTables w.space pairs) := by
  induction pairs with
  | nil => exact .done _
  | cons p rest ih =>
    obtain ⟨t, mode⟩ := p
    have others := ih fun q member => issued q (by simp [member])
    refine .call ⟨rfl, issued (t, mode) (by simp)⟩ fun r => ?_
    cases r with
    | error e => exact .act _ (others.bind fun _ => .done _)
    | ok _ => exact .act _ (others.bind fun _ => .done _)

theorem readTables_only {tables : List Fixture}
    {next : List String → SessionProgram (Except Failure α)}
    (issued : ∀ t ∈ tables, t ∈ fixtures.all)
    (rest : ∀ names, Only (w.Issues fixtures) (next names)) :
    Only (w.Issues fixtures) (readTables w.space tables next) := by
  induction tables generalizing next with
  | nil => exact rest []
  | cons t ts ih =>
    refine SessionProgram.attempt_only ⟨rfl, issued t (by simp)⟩ fun scan => .act _ ?_
    cases t.verify scan with
    | error failure => exact .done _
    | ok _ => exact .act _ (ih (fun u others => issued u (by simp [others])) fun names => rest _)

theorem task_only (w : Workload) (task : Task) (fixtures : FixtureSet) :
    Only (w.Issues fixtures) (w.task task fixtures) := by
  cases task with
  | writePreMigration =>
    refine writeTables_only (fun t member => member) fun written => ?_
    split
    · exact .done _
    · exact (dropTables_only fun p member => member).bind fun _ => .act _ (.act _ (.done _))
  | writePostMigration =>
    exact writeTables_only (fun t member => List.mem_append_left _ member) fun _ => .done _
  | read => exact readTables_only (fun t member => List.mem_append_left _ member) fun _ => .done _

theorem runOn_only (w : Workload) (task : Task) (fixtures : FixtureSet) :
    Only (w.Issues fixtures) (w.runOn task fixtures) := by
  refine .act _ (.act _ ((task_only w task fixtures).bind fun result => ?_))
  cases result with
  | error failure => exact .act _ (.done _)
  | ok report => exact .act _ (.act _ (.done _))

theorem start_only {next : SessionProgram (Except Failure α)} (w : Workload) (rest : Only P next) :
    Only (fun c => c = .ensureNamespace w.space ∨ P c) (w.start next) :=
  SessionProgram.attempt_only (.inl rfl) fun _ => .act _ (rest.mono fun _ => .inr)

end Workload

end CatalogMigration
