import CatalogMigration.Proofs.Session.Steps

namespace CatalogMigration.Program

variable {Call : Type} {Answer : Call → Type} {σ α β : Type}

/-- Programs all of whose calls have a property, whatever is answered. -/
inductive Only (P : Call → Prop) : Program Call Answer α → Prop
  | done (a : α) : Only P (.done a)
  | call {c : Call} {next : Answer c → Program Call Answer α} (holds : P c)
    (rest : ∀ r, Only P (next r)) : Only P (.call c next)
  | act (a : Act) {next : Program Call Answer α} (rest : Only P next) : Only P (.act a next)

variable {P Q : Call → Prop} {p : Program Call Answer α}

theorem Only.mono (only : Only P p) (weaker : ∀ c, P c → Q c) : Only Q p := by
  induction only with
  | done a => exact .done a
  | call holds _ ih => exact .call (weaker _ holds) ih
  | act a _ ih => exact .act a ih

theorem Only.bind {f : α → Program Call Answer β} (only : Only P p) (rest : ∀ a, Only P (f a)) :
    Only P (p.bind f) := by
  induction only with
  | done a => exact rest a
  | call holds _ ih => exact .call holds ih
  | act a _ ih => exact .act a ih

theorem Only.answers (only : Only P p) (host : Host Call Answer σ) (now : Span) (s : σ) :
    ∀ x ∈ answers (p.steps host now s), P x.1 := by
  induction only generalizing now s with
  | done a => simp [steps]
  | @call c next holds _ ih =>
    rw [steps, answers_answered, List.forall_mem_cons]
    exact ⟨holds, ih _ now _⟩
  | act a _ ih =>
    rw [steps, answers_acted]
    exact ih _ s

theorem Only.outcome_invariant {host : Host Call Answer σ} (only : Only P p) (inv : σ → Prop)
    (kept : ∀ c now s, P c → inv s → inv (host c now s).2.1) (now : Span) {s : σ} (holds : inv s) :
    inv (p.outcome host now s).state := by
  induction only generalizing now s with
  | done a => exact holds
  | call allowed _ ih => exact ih _ _ (kept _ now s allowed holds)
  | act a _ ih => exact ih _ holds

theorem answers_invariant (host : Host Call Answer σ) (inv : σ → Prop)
    (shown : (c : Call) × Answer c → Prop)
    (kept : ∀ c now s, inv s → inv (host c now s).2.1)
    (answered : ∀ c now s, inv s → shown ⟨c, (host c now s).1⟩) (p : Program Call Answer α)
    (now : Span) (s : σ) (holds : inv s) : ∀ x ∈ Program.answers (p.steps host now s), shown x := by
  induction p generalizing now s with
  | done a => simp [steps]
  | call c next ih =>
    rw [steps, answers_answered, List.forall_mem_cons]
    exact ⟨answered c now s holds, ih _ now _ (kept c now s holds)⟩
  | act a next ih =>
    rw [steps, answers_acted]
    exact ih _ s holds

end CatalogMigration.Program
