import CatalogMigration.Log.Event
import CatalogMigration.Span

namespace CatalogMigration

inductive Act
  | log (event : Event)
  | wait (span : Span)
  | enter (scope : Scope)
  | leave
deriving DecidableEq, Repr

inductive Program (Call : Type) (Answer : Call → Type) (α : Type)
  | done (result : α)
  | call (c : Call) (next : Answer c → Program Call Answer α)
  | act (a : Act) (next : Program Call Answer α)

namespace Program

variable {Call : Type} {Answer : Call → Type} {α β : Type}

def bind : Program Call Answer α → (α → Program Call Answer β) → Program Call Answer β
  | .done a, f => f a
  | .call c next, f => .call c fun r => (next r).bind f
  | .act a next, f => .act a (next.bind f)

instance : Monad (Program Call Answer) where
  pure := .done
  bind := bind

def perform (a : Act) : Program Call Answer Unit := .act a (.done ())

def log (e : Event) : Program Call Answer Unit := perform (.log e)

/-- Every call as a program of calls of another kind, with a state carried from call to call. -/
def translate {Call' : Type} {Answer' : Call' → Type} {τ : Type}
    (f : (c : Call) → τ → Program Call' Answer' (Answer c × τ)) :
    Program Call Answer α → τ → Program Call' Answer' (α × τ)
  | .done a, t => .done (a, t)
  | .call c next, t => (f c t).bind fun (r, t) => translate f (next r) t
  | .act a next, t => .act a (translate f next t)

/-- Ends a program at the first answer that `stop` takes. -/
def cutWhere (stop : (c : Call) → Answer c → Option α) : Program Call Answer α → Program Call Answer α
  | .done a => .done a
  | .call c next => .call c fun r =>
    match stop c r with
    | some a => .done a
    | none => cutWhere stop (next r)
  | .act a next => .act a (cutWhere stop next)

end Program

inductive Happening (Call : Type)
  | called (c : Call)
  | logged (entry : LogEntry)
  | waited (span : Span)
deriving DecidableEq, Repr

/-- A host in the middle of a run. -/
structure World (Call σ : Type) where
  state : σ
  now : Span
  scopes : List Scope
  history : List (Happening Call)

/-- How a host answers a call at a time: the answer, the state after it and the host's own
events. -/
abbrev Host (Call : Type) (Answer : Call → Type) (σ : Type) :=
  (c : Call) → Span → σ → Answer c × σ × List Event

namespace World

variable {Call σ : Type}

def opening (state : σ) (now : Span) : World Call σ := ⟨state, now, [], []⟩

def perform (w : World Call σ) : Act → World Call σ
  | .log e => { w with history := w.history ++ [.logged ⟨w.scopes, e⟩] }
  | .wait s => { w with now := ⟨w.now.nanos + s.nanos⟩, history := w.history ++ [.waited s] }
  | .enter s => { w with scopes := w.scopes ++ [s] }
  | .leave => { w with scopes := w.scopes.dropLast }

def answer {Answer : Call → Type} (host : Host Call Answer σ) (w : World Call σ) (c : Call) :
    Answer c × World Call σ :=
  let (r, state, events) := host c w.now w.state
  (r, { w with
    state
    history := w.history ++ .called c :: events.map fun e => .logged ⟨w.scopes, e⟩ })

def log (w : World Call σ) : List LogEntry :=
  w.history.filterMap fun
    | .logged e => some e
    | _ => none

def calls (w : World Call σ) : List Call :=
  w.history.filterMap fun
    | .called c => some c
    | _ => none

end World

def Program.run {Call : Type} {Answer : Call → Type} {σ α : Type} (host : Host Call Answer σ) :
    Program Call Answer α → World Call σ → α × World Call σ
  | .done a, w => (a, w)
  | .call c next, w =>
    let (r, w) := w.answer host c
    run host (next r) w
  | .act a next, w => run host next (w.perform a)

end CatalogMigration
