import CatalogMigration.Proofs.Session.Calls

namespace CatalogMigration.Program

variable {Call : Type} {Answer : Call → Type} {σ α β : Type}

inductive Side
  | first
  | second
deriving DecidableEq, Repr

structure Part (Answer : Call → Type) (α : Type) where
  answers : List ((c : Call) × Answer c)
  result : α

def Part.following (given : List ((c : Call) × Answer c)) (part : Part Answer α) : Part Answer α :=
  { part with answers := given ++ part.answers }

structure Joint (Answer : Call → Type) (σ α β : Type) where
  first : Part Answer α
  second : Part Answer β
  state : σ

def alone (host : Host Call Answer σ) (p : Program Call Answer α) (now : Span) (s : σ) :
    Part Answer α :=
  ⟨answers (p.steps host now s), (p.outcome host now s).result⟩

structure Turn (Answer : Call → Type) (σ α : Type) where
  rest : Program Call Answer α
  given : List ((c : Call) × Answer c)
  state : σ

def turn (host : Host Call Answer σ) (now : Span) (s : σ) : Program Call Answer α → Turn Answer σ α
  | .done a => ⟨.done a, [], s⟩
  | .call c next => ⟨next (host c now s).1, [⟨c, (host c now s).1⟩], (host c now s).2.1⟩
  | .act _ next => ⟨next, [], s⟩

def interleave (host : Host Call Answer σ) :
    List (Side × Span) → Program Call Answer α → Program Call Answer β → Span → σ →
      Joint Answer σ α β
  | [], p, q, now, s =>
    let between := p.outcome host now s
    ⟨p.alone host now s, q.alone host between.now between.state,
      (q.outcome host between.now between.state).state⟩
  | (.first, now) :: turns, p, q, _, s =>
    let step := p.turn host now s
    let joint := interleave host turns step.rest q now step.state
    { joint with first := joint.first.following step.given }
  | (.second, now) :: turns, p, q, _, s =>
    let step := q.turn host now s
    let joint := interleave host turns p step.rest now step.state
    { joint with second := joint.second.following step.given }

theorem alone_turn (host : Host Call Answer σ) (p : Program Call Answer α) (now : Span) (s : σ) :
    ∃ later, p.alone host now s =
        ((p.turn host now s).rest.alone host later (p.turn host now s).state).following
          (p.turn host now s).given ∧
      (p.outcome host now s).state =
        ((p.turn host now s).rest.outcome host later (p.turn host now s).state).state := by
  cases p with
  | done a => exact ⟨now, rfl, rfl⟩
  | call c next => exact ⟨now, rfl, rfl⟩
  | act a next => exact ⟨a.after now, rfl, rfl⟩

theorem Only.turn {P : Call → Prop} {p : Program Call Answer α} (only : Only P p)
    (host : Host Call Answer σ) (now : Span) (s : σ) : Only P (p.turn host now s).rest := by
  cases only with
  | done a => exact .done a
  | call _ rest => exact rest _
  | act _ rest => exact rest

theorem Only.turn_invariant {P : Call → Prop} {p : Program Call Answer α}
    {host : Host Call Answer σ} (only : Only P p) (inv : σ → Prop)
    (kept : ∀ c now s, P c → inv s → inv (host c now s).2.1) (now : Span) {s : σ} (holds : inv s) :
    inv (p.turn host now s).state := by
  cases only with
  | done | act => exact holds
  | call allowed _ => exact kept _ now s allowed holds

inductive Concludes (kind : α → Prop) : Program Call Answer α → Prop
  | done {a : α} (holds : kind a) : Concludes kind (.done a)
  | act (a : Act) {next : Program Call Answer α} (rest : Concludes kind next) :
    Concludes kind (.act a next)

/-- Programs that end with a result of some kind, whatever states they are answered in, and whose
calls leave a property of the state as it is. -/
inductive Leads (host : Host Call Answer σ) (known : σ → Prop) (kind : α → Prop) :
    Program Call Answer α → Prop
  | done {a : α} (holds : kind a) : Leads host known kind (.done a)
  | call {c : Call} {next : Answer c → Program Call Answer α}
    (kept : ∀ now s, known (host c now s).2.1 ↔ known s)
    (rest : ∀ now s, Leads host known kind (next (host c now s).1)) :
    Leads host known kind (.call c next)
  | act (a : Act) {next : Program Call Answer α} (rest : Leads host known kind next) :
    Leads host known kind (.act a next)

theorem Concludes.turn {kind : α → Prop} {p : Program Call Answer α} (ends : Concludes kind p)
    (host : Host Call Answer σ) (now : Span) (s : σ) :
    Concludes kind (p.turn host now s).rest ∧ (p.turn host now s).given = [] ∧
      (p.turn host now s).state = s := by
  cases ends with
  | done holds => exact ⟨.done holds, rfl, rfl⟩
  | act a rest => exact ⟨rest, rfl, rfl⟩

theorem Concludes.result {kind : α → Prop} {a : α}
    (ends : Concludes kind (.done a : Program Call Answer α)) : kind a := by
  cases ends with
  | done holds => exact holds

section Preserved

variable {host : Host Call Answer σ} {p : Program Call Answer α} {q : Program Call Answer β}
  {given : List ((c : Call) × Answer c)} {other : List ((c : Call) × Answer c)} {s : σ}

theorem alone_preserves
    {R : Program Call Answer α → List ((c : Call) × Answer c) → σ → Prop}
    (kept : ∀ p given now s, R p given s →
      R (p.turn host now s).rest (given ++ (p.turn host now s).given) (p.turn host now s).state)
    (now : Span) (holds : R p given s) :
    R (.done (p.outcome host now s).result) (given ++ answers (p.steps host now s))
      (p.outcome host now s).state := by
  induction p generalizing given now s with
  | done a =>
    rw [steps, answers_nil, List.append_nil]
    exact holds
  | call c next ih =>
    have rest := ih _ now (kept _ _ now _ holds)
    rwa [List.append_assoc] at rest
  | act a next ih =>
    have rest := ih (a.after now) (kept _ _ now _ holds)
    rwa [List.append_assoc] at rest

/-- What every turn of two programs keeps, whoever takes it, holds at the end of both. -/
theorem interleave_preserves
    {R : Program Call Answer α → List ((c : Call) × Answer c) →
      Program Call Answer β → List ((c : Call) × Answer c) → σ → Prop}
    (first : ∀ p given q other now s, R p given q other s →
      R (p.turn host now s).rest (given ++ (p.turn host now s).given) q other
        (p.turn host now s).state)
    (second : ∀ p given q other now s, R p given q other s →
      R p given (q.turn host now s).rest (other ++ (q.turn host now s).given)
        (q.turn host now s).state)
    (turns : List (Side × Span)) (now : Span) (holds : R p given q other s) :
    let joint := interleave host turns p q now s
    R (.done joint.first.result) (given ++ joint.first.answers) (.done joint.second.result)
      (other ++ joint.second.answers) joint.state := by
  induction turns generalizing p q given other now s with
  | nil =>
    have alone := alone_preserves (R := fun p given s => R p given q other s)
      (fun p given now s => first p given q other now s) now holds
    exact alone_preserves (R := fun q other s => R _ _ q other s)
      (fun q other now s => second _ _ q other now s) _ alone
  | cons turn rest ih =>
    obtain ⟨_ | _, moment⟩ := turn
    · have joined := ih moment (first p given q other moment s holds)
      simp only [List.append_assoc] at joined
      exact joined
    · have joined := ih moment (second p given q other moment s holds)
      simp only [List.append_assoc] at joined
      exact joined

end Preserved

end CatalogMigration.Program
