import CatalogMigration.Proofs.Session.Steps
import CatalogMigration.Workload.Run

namespace CatalogMigration

open Program

namespace Workload

def writeCalls (space : String) (tables : List Fixture) : List SessionCall :=
  tables.flatMap fun t => [.create space t, .append space t fixtureRows, .scan space t]

/-- The error with which an answer stands in the way of a write: the session's own, or that a
scan shows something else than was written. -/
def obstacle? : (c : SessionCall) × c.Answer → Option SessionError
  | ⟨_, .error e⟩ => some e
  | ⟨.scan _ t, .ok scan⟩ =>
    match t.verify scan with
    | .error failure => some (.unexpectedData failure.message)
    | .ok () => none
  | ⟨_, .ok _⟩ => none

/-- The steps of the write of one table, and what stops it. -/
inductive TableWrite (space : String) (t : Fixture) : List SessionStep → Option SessionError → Prop
  | uncreated (e : SessionError) (events : List Event) :
    TableWrite space t [.answered (.create space t) (.error e) events] (some e)
  | unfilled (e : SessionError) (created events : List Event) :
    TableWrite space t
      [.answered (.create space t) (.ok ()) created,
        .answered (.append space t fixtureRows) (.error e) events] (some e)
  | unread (e : SessionError) (created filled events : List Event) :
    TableWrite space t
      [.answered (.create space t) (.ok ()) created,
        .answered (.append space t fixtureRows) (.ok ()) filled,
        .answered (.scan space t) (.error e) events] (some e)
  | rejected (scan : TableScan) (failure : ReadFailure) (differs : t.verify scan = .error failure)
      (created filled events : List Event) :
    TableWrite space t
      [.answered (.create space t) (.ok ()) created,
        .answered (.append space t fixtureRows) (.ok ()) filled,
        .answered (.scan space t) (.ok scan) events, .acted (wroteTable t scan)]
      (some (.unexpectedData failure.message))
  | intact (scan : TableScan) (same : t.verify scan = .ok ()) (created filled events : List Event) :
    TableWrite space t
      [.answered (.create space t) (.ok ()) created,
        .answered (.append space t fixtureRows) (.ok ()) filled,
        .answered (.scan space t) (.ok scan) events, .acted (wroteTable t scan)] none

/-- The steps of the writes of tables, and the table and error that cut them off. -/
inductive Writes (space : String) :
    List Fixture → List SessionStep → Option (Fixture × SessionError) → Prop
  | nil : Writes space [] [] none
  | cut {t : Fixture} {steps : List SessionStep} {e : SessionError} (ts : List Fixture) :
    TableWrite space t steps (some e) → Writes space (t :: ts) steps (some (t, e))
  | cons {t : Fixture} {ts : List Fixture} {steps rest : List SessionStep}
      {stop : Option (Fixture × SessionError)} :
    TableWrite space t steps none → Writes space ts rest stop →
      Writes space (t :: ts) (steps ++ rest) stop

def resumed {α : Type} (next : SessionProgram (Except Failure α)) :
    Option (Fixture × SessionError) → SessionProgram (Except Failure α)
  | some (t, e) => .done (.error (.write t.name e))
  | none => next

variable {σ : Type} (host : SessionHost σ) (space : String) (now : Span)

theorem writeTable_goesOn (t : Fixture) (s : σ) :
    ∃ steps stop s', TableWrite space t steps stop ∧
      ∀ {α : Type} (next : SessionProgram (Except Failure α)),
        GoesOn host (writeTable space t next) now s steps
          (resumed next (stop.map (t, ·))) now s' := by
  rcases create : host (.create space t) now s with ⟨created, s₁, events₁⟩
  cases created with
  | error e =>
    exact ⟨_, _, _, .uncreated e _, fun next => .attempt_error create⟩
  | ok _ =>
    rcases append : host (.append space t t.expectedRows) now s₁ with ⟨filled, s₂, events₂⟩
    cases filled with
    | error e =>
      exact ⟨_, _, _, .unfilled e events₁ events₂, fun next =>
        (GoesOn.attempt_ok create).trans (.attempt_error append)⟩
    | ok _ =>
      rcases scan : host (.scan space t) now s₂ with ⟨read, s₃, events₃⟩
      cases read with
      | error e =>
        exact ⟨_, _, _, .unread e events₁ events₂ events₃, fun next =>
          (GoesOn.attempt_ok create).trans
            ((GoesOn.attempt_ok append).trans (.attempt_error scan))⟩
      | ok observed =>
        have reading {α : Type} (next : SessionProgram (Except Failure α)) :
            GoesOn host (writeTable space t next) now s _ _ now s₃ :=
          (GoesOn.attempt_ok create).trans ((GoesOn.attempt_ok append).trans
            ((GoesOn.attempt_ok scan).trans (.act (wroteTable t observed))))
        cases verdict : t.verify observed with
        | error failure =>
          refine ⟨_, _, s₃, .rejected observed failure verdict events₁ events₂ events₃, ?_⟩
          intro α next
          have went := reading next
          simp only [verdict] at went
          exact went
        | ok _ =>
          refine ⟨_, _, s₃, .intact observed verdict events₁ events₂ events₃, ?_⟩
          intro α next
          have went := reading next
          simp only [verdict] at went
          exact went

theorem writeTables_goesOn (tables : List Fixture) (s : σ) :
    ∃ steps stop s', Writes space tables steps stop ∧
      ∀ {α : Type} (next : List String → SessionProgram (Except Failure α)),
        GoesOn host (writeTables space tables next) now s steps
          (resumed (next (tables.map (·.name))) stop) now s' := by
  induction tables generalizing s with
  | nil => exact ⟨[], none, s, .nil, fun next => .refl⟩
  | cons t ts ih =>
    obtain ⟨steps, stop, s₁, wrote, goes⟩ := writeTable_goesOn host space now t s
    cases stop with
    | some e => exact ⟨steps, some (t, e), s₁, .cut ts wrote, fun _ => goes _⟩
    | none =>
      obtain ⟨rest, stop, s₂, others, goes'⟩ := ih s₁
      exact ⟨steps ++ rest, stop, s₂, .cons wrote others, fun next =>
        (goes _).trans (goes' fun names => next (t.name :: names))⟩

def Writing : SessionStep → Prop
  | .answered c _ _ => c.isDrop = false
  | .acted a => ∃ t scan, a = wroteTable t scan

variable {space : String} {t : Fixture} {tables : List Fixture} {steps : List SessionStep}
  {e : SessionError}

theorem Writing.answers_not_drop (writing : ∀ step ∈ steps, Writing step) :
    ∀ x ∈ answers steps, x.1.isDrop = false := by
  intro x member
  obtain ⟨step, inside, found⟩ := List.mem_filterMap.mp member
  cases step with
  | answered c r events =>
    cases found
    exact writing _ inside
  | acted a => cases found

theorem Writing.acts (writing : ∀ step ∈ steps, Writing step) :
    ∀ a ∈ acts steps, ∃ t scan, a = wroteTable t scan := by
  intro a member
  obtain ⟨step, inside, found⟩ := List.mem_filterMap.mp member
  cases step with
  | answered c r events => cases found
  | acted a =>
    cases found
    exact writing _ inside

theorem Writing.waits (writing : ∀ step ∈ steps, Writing step) : waits steps = [] := by
  refine List.filterMap_eq_nil_iff.mpr fun a member => ?_
  obtain ⟨t, scan, rfl⟩ := Writing.acts writing a member
  rfl

theorem Writing.drops (writing : ∀ step ∈ steps, Writing step) :
    (calls steps).filter (·.isDrop) = [] := by
  rw [calls_eq_answers, List.filter_eq_nil_iff]
  intro call member
  obtain ⟨x, inside, rfl⟩ := List.mem_map.mp member
  simp [Writing.answers_not_drop writing x inside]

theorem writeCalls_cons (space : String) (t : Fixture) (ts : List Fixture) :
    writeCalls space (t :: ts) = writeCalls space [t] ++ writeCalls space ts := by
  simp [writeCalls]

theorem TableWrite.writing {stop : Option SessionError} (wrote : TableWrite space t steps stop) :
    ∀ step ∈ steps, Writing step := by
  cases wrote with
  | uncreated | unfilled | unread => simp [Writing, SessionCall.isDrop]
  | rejected scan | intact scan =>
    simp only [List.forall_mem_cons, Writing, SessionCall.isDrop, List.not_mem_nil, true_and]
    exact ⟨⟨t, scan, rfl⟩, by simp⟩

theorem TableWrite.intact_answers (wrote : TableWrite space t steps none) :
    (answers steps).map (·.1) = writeCalls space [t] ∧ ∀ x ∈ answers steps, obstacle? x = none := by
  cases wrote with
  | intact scan same => simp [writeCalls, obstacle?, same]

theorem TableWrite.stopped_answers (wrote : TableWrite space t steps (some e)) :
    (answers steps).map (·.1) <+: writeCalls space [t] ∧
      ∃ before x, answers steps = before ++ [x] ∧ (∀ y ∈ before, obstacle? y = none) ∧
        obstacle? x = some e := by
  cases wrote with
  | uncreated => exact ⟨by simp [writeCalls], [], _, rfl, by simp, rfl⟩
  | unfilled =>
    exact ⟨by simp [writeCalls], [_], _, rfl, by simp [obstacle?], rfl⟩
  | unread =>
    exact ⟨by simp [writeCalls], [_, _], _, rfl, by simp [obstacle?], rfl⟩
  | rejected scan failure differs =>
    exact ⟨by simp [writeCalls], [_, _], _, rfl, by simp [obstacle?],
      by simp [obstacle?, differs]⟩

theorem Writes.writing {stop : Option (Fixture × SessionError)}
    (wrote : Writes space tables steps stop) : ∀ step ∈ steps, Writing step := by
  induction wrote with
  | nil => simp
  | cut ts first => exact first.writing
  | cons first _ ih =>
    intro step member
    rcases List.mem_append.mp member with member | member
    · exact first.writing step member
    · exact ih step member

theorem Writes.intact_answers (wrote : Writes space tables steps none) :
    (answers steps).map (·.1) = writeCalls space tables ∧
      ∀ x ∈ answers steps, obstacle? x = none := by
  generalize none_stops : (none : Option (Fixture × SessionError)) = stop at wrote
  induction wrote with
  | nil => exact ⟨rfl, by simp⟩
  | cut => cases none_stops
  | @cons t ts _ _ _ first _ ih =>
    obtain ⟨calls, passed⟩ := first.intact_answers
    obtain ⟨others, rest⟩ := ih none_stops
    rw [answers_append, List.map_append, calls, others, ← writeCalls_cons]
    refine ⟨rfl, ?_⟩
    intro x member
    rcases List.mem_append.mp member with member | member
    · exact passed x member
    · exact rest x member

theorem Writes.stopped_answers (wrote : Writes space tables steps (some (t, e))) :
    t ∈ tables ∧ (answers steps).map (·.1) <+: writeCalls space tables ∧
      ∃ before x, answers steps = before ++ [x] ∧ (∀ y ∈ before, obstacle? y = none) ∧
        obstacle? x = some e ∧ x.1 ∈ writeCalls space [t] := by
  generalize stops : some (t, e) = stop at wrote
  induction wrote with
  | nil => cases stops
  | cut ts first =>
    cases stops
    obtain ⟨calls, before, x, ends, passed, stopped⟩ := first.stopped_answers
    have issued : x.1 ∈ writeCalls space [t] := calls.subset (by simp [ends])
    rw [writeCalls_cons]
    exact ⟨by simp, calls.trans (List.prefix_append _ _), before, x, ends, passed, stopped, issued⟩
  | @cons u ts steps _ _ first _ ih =>
    obtain ⟨calls, passed⟩ := first.intact_answers
    obtain ⟨member, others, before, x, ends, earlier, stopped, issued⟩ := ih stops
    rw [answers_append, List.map_append, calls, writeCalls_cons space u ts,
      List.prefix_append_right_inj]
    refine ⟨List.mem_cons_of_mem _ member, others, answers steps ++ before, x, ?_, ?_, stopped,
      issued⟩
    · rw [ends, List.append_assoc]
    · intro y member
      rcases List.mem_append.mp member with member | member
      · exact passed y member
      · exact earlier y member

end Workload

end CatalogMigration
