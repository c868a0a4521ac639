import CatalogMigration.Session.Call

namespace CatalogMigration

def Act.after (now : Span) : Act → Span
  | .wait s => ⟨now.nanos + s.nanos⟩
  | .log _ | .enter _ | .leave => now

theorem Act.le_after (a : Act) (now : Span) : now.nanos ≤ (a.after now).nanos := by
  cases a with
  | wait s => exact Nat.le_add_right ..
  | log | enter | leave => exact Nat.le_refl _

def Act.wait? : Act → Option Span
  | .wait s => some s
  | .log _ | .enter _ | .leave => none

namespace World

variable {Call σ : Type} {Answer : Call → Type} (w : World Call σ)

theorem calls_answer (host : Host Call Answer σ) (c : Call) :
    (w.answer host c).2.calls = w.calls ++ [c] := by
  simp [World.calls, World.answer]

theorem calls_perform (a : Act) : (w.perform a).calls = w.calls := by
  cases a <;> simp [World.calls, World.perform]

theorem log_answer (host : Host Call Answer σ) (c : Call) :
    (w.answer host c).2.log.map (·.event) =
      w.log.map (·.event) ++ (host c w.now w.state).2.2 := by
  simp [World.log, World.answer, Function.comp_def]

theorem log_perform (a : Act) : (w.perform a).log.map (·.event) =
    w.log.map (·.event) ++ (match a with | .log e => [e] | _ => []) := by
  cases a <;> simp [World.log, World.perform]

end World

namespace Program

inductive Step (Call : Type) (Answer : Call → Type)
  | answered (c : Call) (answer : Answer c) (events : List Event)
  | acted (a : Act)

structure Outcome (σ α : Type) where
  result : α
  now : Span
  state : σ

variable {Call : Type} {Answer : Call → Type} {σ α β : Type}

namespace Step

def call? : Step Call Answer → Option Call
  | .answered c _ _ => some c
  | .acted _ => none

def answer? : Step Call Answer → Option ((c : Call) × Answer c)
  | .answered c r _ => some ⟨c, r⟩
  | .acted _ => none

def act? : Step Call Answer → Option Act
  | .answered .. => none
  | .acted a => some a

def events : Step Call Answer → List Event
  | .answered _ _ events => events
  | .acted (.log e) => [e]
  | .acted _ => []

def scopes (around : List Scope) : Step Call Answer → List Scope
  | .acted (.enter s) => around ++ [s]
  | .acted .leave => around.dropLast
  | _ => around

def happenings (around : List Scope) : Step Call Answer → List (Happening Call)
  | .answered c _ events => .called c :: events.map fun e => .logged ⟨around, e⟩
  | .acted (.log e) => [.logged ⟨around, e⟩]
  | .acted (.wait s) => [.waited s]
  | .acted _ => []

end Step

def outcome (host : Host Call Answer σ) : Program Call Answer α → Span → σ → Outcome σ α
  | .done a, now, s => ⟨a, now, s⟩
  | .call c next, now, s => (next (host c now s).1).outcome host now (host c now s).2.1
  | .act a next, now, s => next.outcome host (a.after now) s

def steps (host : Host Call Answer σ) : Program Call Answer α → Span → σ → List (Step Call Answer)
  | .done _, _, _ => []
  | .call c next, now, s =>
    .answered c (host c now s).1 (host c now s).2.2
      :: (next (host c now s).1).steps host now (host c now s).2.1
  | .act a next, now, s => .acted a :: next.steps host (a.after now) s

def calls (steps : List (Step Call Answer)) : List Call := steps.filterMap Step.call?

def answers (steps : List (Step Call Answer)) : List ((c : Call) × Answer c) :=
  steps.filterMap Step.answer?

def acts (steps : List (Step Call Answer)) : List Act := steps.filterMap Step.act?

def waits (steps : List (Step Call Answer)) : List Span := (acts steps).filterMap Act.wait?

section Append

variable (first rest : List (Step Call Answer))

@[simp] theorem calls_append : calls (first ++ rest) = calls first ++ calls rest :=
  List.filterMap_append

@[simp] theorem answers_append : answers (first ++ rest) = answers first ++ answers rest :=
  List.filterMap_append

@[simp] theorem acts_append : acts (first ++ rest) = acts first ++ acts rest :=
  List.filterMap_append

@[simp] theorem waits_append : waits (first ++ rest) = waits first ++ waits rest := by
  rw [waits, acts_append, List.filterMap_append, waits, waits]

end Append

section Cons

variable (c : Call) (r : Answer c) (events : List Event) (a : Act) (rest : List (Step Call Answer))

@[simp] theorem calls_nil : calls ([] : List (Step Call Answer)) = [] := rfl

@[simp] theorem answers_nil : answers ([] : List (Step Call Answer)) = [] := rfl

@[simp] theorem acts_nil : acts ([] : List (Step Call Answer)) = [] := rfl

@[simp] theorem waits_nil : waits ([] : List (Step Call Answer)) = [] := rfl

@[simp] theorem calls_answered : calls (.answered c r events :: rest) = c :: calls rest := rfl

@[simp] theorem calls_acted : calls (.acted a :: rest) = calls rest := rfl

@[simp] theorem answers_answered :
    answers (.answered c r events :: rest) = ⟨c, r⟩ :: answers rest := rfl

@[simp] theorem answers_acted : answers (.acted a :: rest) = answers rest := rfl

@[simp] theorem acts_answered : acts (.answered c r events :: rest) = acts rest := rfl

@[simp] theorem acts_acted : acts (.acted a :: rest) = a :: acts rest := rfl

@[simp] theorem waits_acted : waits (.acted a :: rest) = a.wait?.toList ++ waits rest := by
  cases a <;> rfl

@[simp] theorem waits_answered : waits (.answered c r events :: rest) = waits rest := rfl

end Cons

theorem calls_eq_answers (steps : List (Step Call Answer)) :
    calls steps = (answers steps).map (·.1) := by
  induction steps with
  | nil => rfl
  | cons step rest ih => cases step <;> simp [ih]

/-- The history of steps one after the other, each inside the scopes open before it. -/
def happenings (around : List Scope) : List (Step Call Answer) → List (Happening Call)
  | [] => []
  | step :: rest => step.happenings around ++ happenings (step.scopes around) rest

theorem bind_done (p : Program Call Answer α) : p.bind .done = p := by
  induction p with
  | done a => rfl
  | call c next ih => exact congrArg (Program.call c) (funext ih)
  | act a next ih => exact congrArg (Program.act a) ih

theorem bind_assoc {γ : Type} (p : Program Call Answer α) (f : α → Program Call Answer β)
    (g : β → Program Call Answer γ) : (p.bind f).bind g = p.bind fun a => (f a).bind g := by
  induction p with
  | done a => rfl
  | call c next ih => exact congrArg (Program.call c) (funext ih)
  | act a next ih => exact congrArg (Program.act a) ih

section Bind

variable (host : Host Call Answer σ) (p : Program Call Answer α) (f : α → Program Call Answer β)
  (now : Span) (s : σ)

theorem outcome_bind : (p.bind f).outcome host now s =
    (f (p.outcome host now s).result).outcome host (p.outcome host now s).now
      (p.outcome host now s).state := by
  induction p generalizing now s with
  | done a => rfl
  | call c next ih => exact ih _ _ _
  | act a next ih => exact ih _ _

theorem steps_bind : (p.bind f).steps host now s =
    p.steps host now s ++ (f (p.outcome host now s).result).steps host
      (p.outcome host now s).now (p.outcome host now s).state := by
  induction p generalizing now s with
  | done a => rfl
  | call c next ih => exact congrArg (Step.answered c _ _ :: ·) (ih _ _ _)
  | act a next ih => exact congrArg (Step.acted a :: ·) (ih _ _)

end Bind

section Run

variable (host : Host Call Answer σ) (p : Program Call Answer α) (w : World Call σ)

theorem run_call (c : Call) (next : Answer c → Program Call Answer α) :
    (call c next).run host w = (next (w.answer host c).1).run host (w.answer host c).2 := rfl

theorem run_act (a : Act) (next : Program Call Answer α) :
    (act a next).run host w = next.run host (w.perform a) := rfl

theorem run_outcome : Outcome.mk (p.run host w).1 (p.run host w).2.now (p.run host w).2.state =
    p.outcome host w.now w.state := by
  induction p generalizing w with
  | done a => rfl
  | call c next ih => exact ih _ _
  | act a next ih => cases a <;> exact ih _

theorem run_result : (p.run host w).1 = (p.outcome host w.now w.state).result :=
  congrArg Outcome.result (run_outcome host p w)

theorem run_state : (p.run host w).2.state = (p.outcome host w.now w.state).state :=
  congrArg Outcome.state (run_outcome host p w)

theorem run_history :
    (p.run host w).2.history = w.history ++ happenings w.scopes (p.steps host w.now w.state) := by
  induction p generalizing w with
  | done a => exact (List.append_nil _).symm
  | call c next ih =>
    refine (ih _ _).trans ?_
    simp only [steps, happenings, Step.happenings, ← List.append_assoc]
    rfl
  | act a next ih =>
    refine (ih _).trans ?_
    cases a <;> simp [World.perform, steps, happenings, Step.happenings, Step.scopes, Act.after]

theorem run_calls :
    (p.run host w).2.calls = w.calls ++ calls (p.steps host w.now w.state) := by
  induction p generalizing w with
  | done a => exact (List.append_nil _).symm
  | call c next ih =>
    rw [run_call, ih, World.calls_answer, List.append_assoc]
    rfl
  | act a next ih =>
    rw [run_act, ih, World.calls_perform]
    cases a <;> rfl

theorem run_log : (p.run host w).2.log.map (·.event) =
    w.log.map (·.event) ++ (p.steps host w.now w.state).flatMap Step.events := by
  induction p generalizing w with
  | done a => exact (List.append_nil _).symm
  | call c next ih =>
    rw [run_call, ih, World.log_answer, List.append_assoc]
    rfl
  | act a next ih =>
    rw [run_act, ih, World.log_perform, List.append_assoc]
    cases a <;> rfl

end Run

/-- After some steps a program goes on as another. -/
structure GoesOn (host : Host Call Answer σ) (p : Program Call Answer α) (now : Span) (s : σ)
    (first : List (Step Call Answer)) (q : Program Call Answer α) (later : Span) (t : σ) :
    Prop where
  steps : p.steps host now s = first ++ q.steps host later t
  outcome : p.outcome host now s = q.outcome host later t

namespace GoesOn

variable {host : Host Call Answer σ} {p q r : Program Call Answer α} {now later last : Span}
  {s t u : σ} {first second : List (Step Call Answer)}

theorem refl : GoesOn host p now s [] p now s := ⟨rfl, rfl⟩

theorem call {c : Call} (next : Answer c → Program Call Answer α) {r : Answer c}
    {events : List Event} (answered : host c now s = (r, t, events)) :
    GoesOn host (.call c next) now s [.answered c r events] (next r) now t := by
  constructor <;> simp only [Program.steps, Program.outcome, answered, List.singleton_append]

theorem act (a : Act) : GoesOn host (.act a p) now s [.acted a] p (a.after now) s := ⟨rfl, rfl⟩

theorem trans (start : GoesOn host p now s first q later t)
    (rest : GoesOn host q later t second r last u) :
    GoesOn host p now s (first ++ second) r last u :=
  ⟨by rw [start.steps, rest.steps, List.append_assoc], start.outcome.trans rest.outcome⟩

theorem ended (host : Host Call Answer σ) (p : Program Call Answer α) (now : Span) (s : σ) :
    GoesOn host p now s (p.steps host now s) (.done (p.outcome host now s).result)
      (p.outcome host now s).now (p.outcome host now s).state :=
  ⟨(List.append_nil _).symm, rfl⟩

theorem bind (start : GoesOn host p now s first q later t) (f : α → Program Call Answer β) :
    GoesOn host (p.bind f) now s first (q.bind f) later t := by
  constructor
  · rw [steps_bind, steps_bind, start.steps, start.outcome, List.append_assoc]
  · rw [outcome_bind, outcome_bind, start.outcome]

end GoesOn

theorem outcome_invariant (host : Host Call Answer σ) (inv : σ → Prop)
    (kept : ∀ c now s, inv s → inv (host c now s).2.1) (p : Program Call Answer α) (now : Span)
    (s : σ) (holds : inv s) : inv (p.outcome host now s).state := by
  induction p generalizing now s with
  | done a => exact holds
  | call c next ih => exact ih _ _ _ (kept c now s holds)
  | act a next ih => exact ih _ _ holds

end Program

def SessionCall.isDrop : SessionCall → Bool
  | .drop .. => true
  | .ensureNamespace .. | .create .. | .append .. | .scan .. => false

abbrev SessionStep := Program.Step SessionCall SessionCall.Answer

namespace Program.GoesOn

variable {σ α : Type} {host : SessionHost σ} {c : SessionCall} {now : Span} {s t : σ}
  {events : List Event} {failure : SessionError → Failure}
  {next : c.Result → SessionProgram (Except Failure α)}

theorem attempt_error {e : SessionError} (answered : host c now s = (.error e, t, events)) :
    GoesOn host (SessionProgram.attempt c failure next) now s [.answered c (.error e) events]
      (.done (.error (failure e))) now t :=
  .call _ answered

theorem attempt_ok {r : c.Result} (answered : host c now s = (.ok r, t, events)) :
    GoesOn host (SessionProgram.attempt c failure next) now s [.answered c (.ok r) events]
      (next r) now t :=
  .call _ answered

end Program.GoesOn

end CatalogMigration
