import CatalogMigration.Proofs.Catalog.Listing
import CatalogMigration.Proofs.Session.Steps

namespace CatalogMigration

open Program

/-- An operation that was done at a time, and what it answered. -/
structure CatalogOperation.Outcome where
  time : Span
  operation : CatalogOperation
  result : operation.Result

namespace Catalog

variable {c d : Catalog} {now later : Span} {o : CatalogOperation}

def outcomes : Catalog → List (Span × CatalogOperation) → List CatalogOperation.Outcome
  | _, [] => []
  | c, o :: os => ⟨o.1, o.2, (o.2.apply o.1 c).1⟩ :: outcomes (o.2.apply o.1 c).2 os

theorem after_append (c : Catalog) (first second : List (Span × CatalogOperation)) :
    c.after (first ++ second) = (c.after first).after second :=
  List.foldl_append

theorem after_invariant {inv : Catalog → Prop} {operations : List (Span × CatalogOperation)}
    (kept : ∀ o ∈ operations, ∀ c, inv c → inv (o.2.apply o.1 c).2) (holds : inv c) :
    inv (c.after operations) := by
  induction operations generalizing c with
  | nil => exact holds
  | cons o os ih =>
    exact ih (fun p member => kept p (by simp [member])) (kept o (by simp) c holds)

theorem apply_retention (now : Span) (c : Catalog) (o : CatalogOperation) :
    (o.apply now c).2.retention = c.retention := by
  cases o with
  | call request => exact (answer_continues request now c).retention
  | setUnreachable | failAppendsTo | failDropsOf | replaceRows | replaceSchema => rfl
  | undrop key =>
    show (c.undrop now key).2.retention = c.retention
    unfold undrop
    split
    · rfl
    · simp only
      split <;> rfl

def runOperations {α : Type} : SessionProgram α → Span → Catalog → List (Span × CatalogOperation)
  | .done _, _, _ => []
  | .call c next, now, s =>
    (now, .call c) :: runOperations (next (answer c now s).1) now (answer c now s).2.1
  | .act a next, now, s => runOperations next (a.after now) s

/-- A run makes of a catalog what its calls make of it. -/
theorem outcome_eq_after {α : Type} (p : SessionProgram α) (now : Span) (c : Catalog) :
    (p.outcome answer now c).state = c.after (runOperations p now c) := by
  induction p generalizing now c with
  | done a => rfl
  | call call next ih => exact ih _ now _
  | act a next ih => exact ih _ c

/-- The states that operations up to a time, in their order, lead to from an empty catalog. -/
def ReachableBy (now : Span) (c : Catalog) : Prop :=
  ∃ operations : List (Span × CatalogOperation),
    operations.Pairwise (fun a b => a.1.nanos ≤ b.1.nanos) ∧
      (∀ o ∈ operations, o.1.nanos ≤ now.nanos) ∧ (empty c.retention).after operations = c

namespace ReachableBy

theorem empty (now retention : Span) : ReachableBy now (empty retention) :=
  ⟨[], .nil, by simp, rfl⟩

theorem mono (reachable : ReachableBy now c) (notBefore : now.nanos ≤ later.nanos) :
    ReachableBy later c := by
  obtain ⟨operations, order, past, leads⟩ := reachable
  exact ⟨operations, order, fun o member => (past o member).trans notBefore, leads⟩

theorem apply (reachable : ReachableBy now c) (o : CatalogOperation) :
    ReachableBy now (o.apply now c).2 := by
  obtain ⟨operations, order, past, leads⟩ := reachable
  refine ⟨operations ++ [(now, o)], ?_, ?_, ?_⟩
  · rw [List.pairwise_append]
    exact ⟨order, List.pairwise_singleton .., by simpa using fun o member => past o member⟩
  · intro p member
    rcases List.mem_append.mp member with member | member
    · exact past p member
    · rw [List.mem_singleton.mp member]
  · rw [apply_retention, after_append, leads]
    rfl

theorem reachable (reachable : ReachableBy now c) : Reachable c := by
  obtain ⟨operations, order, -, leads⟩ := reachable
  exact ⟨operations, order, leads⟩

theorem outcome {α : Type} (reachable : ReachableBy now c) (p : SessionProgram α) :
    ReachableBy (p.outcome answer now c).now (p.outcome answer now c).state := by
  induction p generalizing now c with
  | done a => exact reachable
  | call call next ih => exact ih _ (reachable.apply (.call call))
  | act a next ih => exact ih (reachable.mono (a.le_after now))

end ReachableBy

theorem Reachable.keyed (reachable : Reachable c) : c.Keyed := by
  obtain ⟨operations, -, leads⟩ := reachable
  rw [← leads]
  exact after_invariant (fun o _ c => (apply_transition o.1 c o.2).keyed) (keyed_empty _)

/-- No tombstone is from the future. -/
def Dated (now : Span) (c : Catalog) : Prop :=
  ∀ key t, c.tombstones.get? key = some t → t.droppedAt.nanos ≤ now.nanos

theorem Transition.dated (changed : Transition now c d o) (notBefore : now.nanos ≤ later.nanos)
    (dated : c.Dated later) : d.Dated later := by
  have erased (k : TableKey) {key : TableKey} {t : Tombstone}
      (found : (c.tombstones.erase k).get? key = some t) : t.droppedAt.nanos ≤ later.nanos := by
    rw [Assoc.get?_erase] at found
    split at found
    · cases found
    · exact dated key t found
  intro key t found
  cases changed with
  | kept _ tombstones | created _ _ _ tombstones | rewritten _ _ _ tombstones =>
    exact dated key t (tombstones ▸ found)
  | buried _ _ tombstones =>
    rw [tombstones, Assoc.get?_insert] at found
    split at found
    · cases found
      exact notBefore
    · exact dated key t found
  | purged _ _ tombstones | forgotten _ tombstones | restored _ _ tombstones =>
    exact erased _ (tombstones ▸ found)

theorem ReachableBy.dated (reachable : ReachableBy now c) : c.Dated now := by
  obtain ⟨operations, -, past, leads⟩ := reachable
  rw [← leads]
  refine after_invariant (fun o member c => ?_) fun key t found => by cases found
  exact (apply_transition o.1 c o.2).dated (past o member)

end Catalog

end CatalogMigration
