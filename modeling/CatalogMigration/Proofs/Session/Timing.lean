import CatalogMigration.Proofs.Session.Steps

namespace CatalogMigration

namespace Program

variable {Call : Type} {Answer : Call → Type} {σ α β : Type}

/-- What a run may end with, and when, if time passes between its steps and not in waits alone. -/
inductive Paced (host : Host Call Answer σ) :
    Program Call Answer α → Span → σ → Outcome σ α → Prop
  | done (a : α) {now later : Span} (s : σ) (notBefore : now.nanos ≤ later.nanos) :
    Paced host (.done a) now s ⟨a, later, s⟩
  | call {c : Call} {next : Answer c → Program Call Answer α} {now moment : Span} {s : σ}
    {o : Outcome σ α} (notBefore : now.nanos ≤ moment.nanos)
    (rest : Paced host (next (host c moment s).1) moment (host c moment s).2.1 o) :
    Paced host (.call c next) now s o
  | act {a : Act} {next : Program Call Answer α} {now moment : Span} {s : σ} {o : Outcome σ α}
    (notBefore : (a.after now).nanos ≤ moment.nanos) (rest : Paced host next moment s o) :
    Paced host (.act a next) now s o

theorem Paced.exact (host : Host Call Answer σ) (p : Program Call Answer α) (now : Span) (s : σ) :
    Paced host p now s (p.outcome host now s) := by
  induction p generalizing now s with
  | done a => exact .done a s (Nat.le_refl _)
  | call c next ih => exact .call (Nat.le_refl _) (ih _ _ _)
  | act a next ih => exact .act (Nat.le_refl _) (ih _ _)

inductive Quiet : Program Call Answer α → Prop
  | done (a : α) : Quiet (.done a)
  | act (a : Act) {next : Program Call Answer α} (rest : Quiet next) : Quiet (.act a next)

/-- Programs that end with a result of some kind only after a wait that follows all their calls. -/
inductive WaitsLast (span : Span) (kind : α → Prop) : Program Call Answer α → Prop
  | other {a : α} (unlike : ¬ kind a) : WaitsLast span kind (.done a)
  | call {c : Call} {next : Answer c → Program Call Answer α}
    (rest : ∀ r, WaitsLast span kind (next r)) : WaitsLast span kind (.call c next)
  | act (a : Act) {next : Program Call Answer α} (rest : WaitsLast span kind next) :
    WaitsLast span kind (.act a next)
  | wait {next : Program Call Answer α} (quiet : Quiet next) :
    WaitsLast span kind (.act (.wait span) next)

variable {host : Host Call Answer σ} {p : Program Call Answer α} {now : Span} {s : σ}
  {o : Outcome σ α} {span : Span} {kind : α → Prop}

theorem Quiet.state (quiet : Quiet p) (paced : Paced host p now s o) :
    o.state = s ∧ now.nanos ≤ o.now.nanos := by
  induction paced with
  | done a s notBefore => exact ⟨rfl, notBefore⟩
  | call => cases quiet
  | @act a next now moment s o notBefore rest ih =>
    cases quiet with
    | act _ quiet =>
      obtain ⟨same, later⟩ := ih quiet
      exact ⟨same, Nat.le_trans (a.le_after now) (Nat.le_trans notBefore later)⟩

theorem Quiet.bind {f : α → Program Call Answer β} (quiet : Quiet p) (rest : ∀ a, Quiet (f a)) :
    Quiet (p.bind f) := by
  induction quiet with
  | done a => exact rest a
  | act a _ ih => exact .act a ih

theorem WaitsLast.bind (p : Program Call Answer α) {f : α → Program Call Answer β}
    {kind : β → Prop} (rest : ∀ a, WaitsLast span kind (f a)) : WaitsLast span kind (p.bind f) := by
  induction p with
  | done a => exact rest a
  | call c next ih => exact .call ih
  | act a next ih => exact .act a ih

theorem WaitsLast.bind_quiet {f : α → Program Call Answer β} {kind' : β → Prop}
    (waits : WaitsLast span kind p) (quiet : ∀ a, Quiet (f a))
    (unlike : ∀ a, ¬ kind a → WaitsLast span kind' (f a)) :
    WaitsLast span kind' (p.bind f) := by
  induction waits with
  | other other => exact unlike _ other
  | call _ ih => exact .call ih
  | act a _ ih => exact .act a ih
  | wait rest => exact .wait (rest.bind quiet)

/-- The state at the end was there before the last wait, and what answers and time keep held then. -/
theorem WaitsLast.settled (inv : Span → σ → Prop) (waits : WaitsLast span kind p)
    (paced : Paced host p now s o) (ended : kind o.result)
    (kept : ∀ c now s, inv now s → inv now (host c now s).2.1)
    (aged : ∀ now later s, now.nanos ≤ later.nanos → inv now s → inv later s)
    (holds : inv now s) :
    ∃ before : Span, inv before o.state ∧ before.nanos + span.nanos ≤ o.now.nanos := by
  induction paced with
  | done a s notBefore =>
    cases waits with
    | other unlike => exact absurd ended unlike
  | call notBefore rest ih =>
    cases waits with
    | call waits => exact ih (waits _) ended (kept _ _ _ (aged _ _ _ notBefore holds))
  | @act a next now moment s o notBefore rest ih =>
    cases waits with
    | act _ waits => exact ih waits ended (aged _ _ _ (Nat.le_trans (a.le_after now) notBefore) holds)
    | wait quiet =>
      obtain ⟨same, later⟩ := quiet.state rest
      exact ⟨now, same ▸ holds, Nat.le_trans notBefore later⟩

end Program

end CatalogMigration
