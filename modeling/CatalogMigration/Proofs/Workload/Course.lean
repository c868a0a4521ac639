import CatalogMigration.Proofs.Workload.Drop
import CatalogMigration.Proofs.Workload.Write
import CatalogMigration.Session.Call

namespace CatalogMigration

open Program

def FixtureSet.written (s : FixtureSet) : Task → List Fixture
  | .writePreMigration => s.all
  | .writePostMigration => s.maintained
  | .read => []

namespace Workload

def opening (w : Workload) (task : Task) : List SessionStep :=
  [.acted (.enter (w.scope task)),
    .acted (.log ⟨.info, "migration_tests::workload", "starting task", []⟩)]

def ending : Except Failure Report → List SessionStep
  | .ok report =>
    [.acted (.log ⟨.info, "migration_tests::workload", "task finished",
      [("report", .rendered report.display)]⟩), .acted .leave]
  | .error _ => [.acted .leave]

variable {σ : Type} {host : SessionHost σ} {w : Workload} {task : Task} {fixtures : FixtureSet}
  {now later : Span} {s t : σ} {steps : List SessionStep} {result : Except Failure Report}

theorem runOn_goesOn (ran : GoesOn host (w.task task fixtures) now s steps (.done result) later t) :
    GoesOn host (w.runOn task fixtures) now s (w.opening task ++ (steps ++ ending result))
      (.done result) later t := by
  have opened : GoesOn host (w.runOn task fixtures) now s (w.opening task) _ now s :=
    (GoesOn.act _).trans (GoesOn.act _)
  refine opened.trans ((ran.bind _).trans ?_)
  cases result with
  | ok report => exact (GoesOn.act _).trans (GoesOn.act _)
  | error failure => exact GoesOn.act _

theorem runOn_outcome (host : SessionHost σ) (w : Workload) (task : Task) (fixtures : FixtureSet)
    (now : Span) (s : σ) :
    (w.runOn task fixtures).outcome host now s = (w.task task fixtures).outcome host now s :=
  (runOn_goesOn (.ended host (w.task task fixtures) now s)).outcome

theorem runOn_of_goesOn {world : World SessionCall σ}
    (ran : GoesOn host (w.task task fixtures) world.now world.state steps (.done result) later t) :
    (w.runOn task fixtures).steps host world.now world.state =
        w.opening task ++ (steps ++ ending result) ∧
      ((w.runOn task fixtures).run host world).1 = result := by
  have whole := runOn_goesOn ran
  exact ⟨whole.steps.trans (List.append_nil _), by rw [run_result, whole.outcome]; rfl⟩

def writePhase (steps : List SessionStep) : List ((c : SessionCall) × c.Answer) :=
  (answers steps).takeWhile fun x => !x.1.isDrop

/-- The calls before the first drop are those of the writes in their order, as far as nothing
stands in the way. The first obstacle is the end of the run. -/
structure CutAtObstacle (space : String) (tables : List Fixture) (steps : List SessionStep)
    (result : Except Failure Report) : Prop where
  in_order : (writePhase steps).map (·.1) <+: writeCalls space tables
  passed : ∀ x ∈ (writePhase steps).dropLast, obstacle? x = none
  complete : (∀ x ∈ writePhase steps, obstacle? x = none) →
    (writePhase steps).map (·.1) = writeCalls space tables
  cut : ∀ x e, (writePhase steps).getLast? = some x → obstacle? x = some e →
    answers steps = writePhase steps ∧ waits steps = [] ∧
      ∃ t ∈ tables, x.1 ∈ writeCalls space [t] ∧ result = .error (.write t.name e)
  drops_last : ∀ x ∈ answers steps, x.1.isDrop →
    (writePhase steps).map (·.1) = writeCalls space tables ∧
      ∀ y ∈ writePhase steps, obstacle? y = none

@[simp] theorem answers_opening : answers (w.opening task) = [] := rfl

@[simp] theorem answers_ending : answers (ending result) = [] := by
  cases result <;> rfl

@[simp] theorem waits_opening : waits (w.opening task) = [] := rfl

@[simp] theorem waits_ending : waits (ending result) = [] := by
  cases result <;> rfl

@[simp] theorem calls_opening : calls (w.opening task) = [] := rfl

@[simp] theorem calls_ending : calls (ending result) = [] := by
  cases result <;> rfl

theorem not_waiting_opening (span : Span) : .log (waitEvent span) ∉ acts (w.opening task) := by
  simp [opening, waitEvent]

theorem not_waiting_ending (span : Span) : .log (waitEvent span) ∉ acts (ending result) := by
  cases result <;> simp [ending, waitEvent]

theorem not_waiting_writes (writing : ∀ step ∈ steps, Writing step) (span : Span) :
    .log (waitEvent span) ∉ acts steps := by
  intro member
  obtain ⟨t, scan, told⟩ := Writing.acts writing _ member
  simp [waitEvent, wroteTable, info] at told

theorem not_waiting_drops (attempts : List DropAttempt) (span : Span) :
    .log (waitEvent span) ∉ attempts.map (Act.log ·.event) := by
  intro member
  obtain ⟨a, -, told⟩ := List.mem_map.mp member
  exact dropEvent_ne_wait a span (Act.log.inj told)

/-- Neither writes nor drops tell of a wait, so the one told of is the last. -/
theorem count_waitEvent {phase : List SessionStep} (writing : ∀ step ∈ phase, Writing step)
    (space : String) (attempts : List DropAttempt) (span : Span) :
    (acts (w.opening task ++ (phase ++ (attempts.flatMap (·.steps space) ++
      [.acted (.log (waitEvent span)), .acted (.wait span)]) ++ ending result))).count
        (.log (waitEvent span)) = 1 := by
  have not_wait : Act.wait span ≠ .log (waitEvent span) := by simp
  simp only [acts_append, DropAttempt.acts_steps, List.count_append, acts_acted, acts_nil,
    List.count_cons_self, List.count_cons_of_ne not_wait, List.count_nil,
    List.count_eq_zero_of_not_mem (not_waiting_opening span),
    List.count_eq_zero_of_not_mem (not_waiting_writes writing span),
    List.count_eq_zero_of_not_mem (not_waiting_drops attempts span),
    List.count_eq_zero_of_not_mem (not_waiting_ending span)]

theorem writePhase_eq {writes drops : List ((c : SessionCall) × c.Answer)}
    (split : answers steps = writes ++ drops) (kept : ∀ x ∈ writes, x.1.isDrop = false)
    (dropped : ∀ x ∈ drops, x.1.isDrop = true) : writePhase steps = writes := by
  have none_taken : drops.takeWhile (fun x => !x.1.isDrop) = [] := by
    cases drops with
    | nil => rfl
    | cons x rest => simp [dropped x (by simp)]
  rw [writePhase, split, List.takeWhile_append_of_pos (fun x member => by simp [kept x member]),
    none_taken, List.append_nil]

theorem CutAtObstacle.of_stopped {space : String} {tables : List Fixture} {t : Fixture}
    {e : SessionError} {phase : List SessionStep}
    (wrote : Writes space tables phase (some (t, e)))
    (same : steps = w.opening task ++ (phase ++ ending (.error (.write t.name e)))) :
    CutAtObstacle space tables steps (.error (.write t.name e)) := by
  have all : answers steps = answers phase := by simp [same]
  have split : answers steps = answers phase ++ [] := by simp [all]
  have whole : writePhase steps = answers phase :=
    writePhase_eq split (Writing.answers_not_drop wrote.writing) (by simp)
  obtain ⟨written, calls, before, last, ends, passed, stopped, issued⟩ := wrote.stopped_answers
  have last_stops (passing : ∀ y ∈ answers phase, obstacle? y = none) : False := by
    have clear := passing last (by simp [ends])
    rw [stopped] at clear
    cases clear
  refine ⟨by rwa [whole], ?_, ?_, ?_, ?_⟩
  · rw [whole, ends, List.dropLast_concat]
    exact passed
  · rw [whole]
    exact fun passing => (last_stops passing).elim
  · intro x found final obstructed
    rw [whole, ends, List.getLast?_concat] at final
    cases final
    rw [stopped] at obstructed
    cases obstructed
    refine ⟨all.trans whole.symm, ?_, t, written, issued, rfl⟩
    simp [same, Writing.waits wrote.writing]
  · intro x member dropped
    rw [all] at member
    rw [Writing.answers_not_drop wrote.writing x member] at dropped
    cases dropped

theorem CutAtObstacle.of_intact {space : String} {tables : List Fixture}
    {phase rest : List SessionStep} (wrote : Writes space tables phase none)
    (same : answers steps = answers phase ++ answers rest)
    (dropped : ∀ x ∈ answers rest, x.1.isDrop = true) :
    CutAtObstacle space tables steps result := by
  have whole : writePhase steps = answers phase :=
    writePhase_eq same (Writing.answers_not_drop wrote.writing) dropped
  obtain ⟨calls, passed⟩ := wrote.intact_answers
  refine ⟨by simp only [whole, calls, List.prefix_rfl], ?_, ?_, ?_, ?_⟩
  · rw [whole]
    exact fun x member => passed x (List.dropLast_subset _ member)
  · rw [whole]
    exact fun _ => calls
  · intro x e final obstructed
    rw [whole] at final
    rw [passed x (List.mem_of_getLast? final)] at obstructed
    cases obstructed
  · rw [whole]
    exact fun _ _ _ => ⟨calls, passed⟩

theorem task_goesOn (host : SessionHost σ) (w : Workload) (fixtures : FixtureSet)
    (writes : task ≠ .read) (now : Span) (s : σ) :
    ∃ phase stop, Writes w.space (fixtures.written task) phase stop ∧
      match stop with
      | some (t, e) => ∃ s', GoesOn host (w.task task fixtures) now s phase
          (.done (.error (.write t.name e))) now s'
      | none => ∃ rest result later s', GoesOn host (w.task task fixtures) now s (phase ++ rest)
          (.done result) later s' ∧ (∀ x ∈ answers rest, x.1.isDrop = true) ∧
          (task = .writePostMigration → rest = []) ∧
          ∀ report, result = .ok report →
            report.written = (fixtures.written task).map (·.name) := by
  obtain ⟨phase, stop, s₁, wrote, goes⟩ :=
    writeTables_goesOn host w.space now (fixtures.written task) s
  refine ⟨phase, stop, wrote, ?_⟩
  cases task with
  | read => exact absurd rfl writes
  | writePostMigration =>
    cases stop with
    | some stopped => exact ⟨s₁, goes _⟩
    | none =>
      refine ⟨[], _, now, s₁, (goes _).trans .refl, by simp, fun _ => rfl, ?_⟩
      rintro _ ⟨⟩
      rfl
  | writePreMigration =>
    cases stop with
    | some stopped => exact ⟨s₁, goes _⟩
    | none =>
      by_cases none_dropped : fixtures.dropped = []
      · have ended := afterWrites_goesOn_of_none_dropped host w fixtures none_dropped now s₁
        refine ⟨[], _, now, s₁, (goes _).trans ended, by simp, fun _ => rfl, ?_⟩
        rintro _ ⟨⟩
        rfl
      · obtain ⟨attempts, s₂, order, dropping⟩ :=
          afterWrites_goesOn host w fixtures none_dropped now s₁
        refine ⟨_, _, _, s₂, (goes (w.afterWrites fixtures)).trans dropping, ?_,
          (fun isPost => by cases isPost), fun report ok => written_of_dropResult ok⟩
        intro x member
        rw [answers_append, DropAttempt.answers_steps] at member
        obtain ⟨attempt, -, rfl⟩ : ∃ a ∈ attempts, _ := by simpa using member
        rfl

/-- Whatever a session answers, a task that writes creates, fills and reads back its tables in their
order, and the first answer that stands in the way ends it with that table and that error. -/
theorem writes_cut_at_first_obstacle (w : Workload) (fixtures : FixtureSet) (task : Task)
    (writes : task ≠ .read) (host : SessionHost σ) (world : World SessionCall σ) :
    let run := (w.runOn task fixtures).run host world
    let steps := (w.runOn task fixtures).steps host world.now world.state
    run.2.history = world.history ++ happenings world.scopes steps ∧
    run.2.calls = world.calls ++ (answers steps).map (·.1) ∧
    CutAtObstacle w.space (fixtures.written task) steps run.1 ∧
    (task = .writePostMigration →
      (∀ x ∈ answers steps, x.1.isDrop = false) ∧ waits steps = []) ∧
    ∀ report, run.1 = .ok report → report.written = (fixtures.written task).map (·.name) := by
  intro run steps
  refine ⟨run_history .., by rw [← calls_eq_answers]; exact run_calls .., ?_⟩
  obtain ⟨phase, stop, wrote, course⟩ := task_goesOn host w fixtures writes world.now world.state
  cases stop with
  | some stopped =>
    obtain ⟨t, e⟩ := stopped
    obtain ⟨s', ran⟩ := course
    obtain ⟨same, failed⟩ := runOn_of_goesOn ran
    have answered : answers steps = answers phase := by simp [steps, same]
    refine ⟨?_, ?_, ?_⟩
    · rw [show run.1 = _ from failed]
      exact .of_stopped wrote same
    · intro _
      rw [answered]
      refine ⟨Writing.answers_not_drop wrote.writing, ?_⟩
      simp [steps, same, Writing.waits wrote.writing]
    · intro report ok
      rw [show run.1 = _ from failed] at ok
      cases ok
  | none =>
    obtain ⟨rest, result, later, s', ran, dropped, post, written⟩ := course
    obtain ⟨same, ended⟩ := runOn_of_goesOn ran
    have answered : answers steps = answers phase ++ answers rest := by simp [steps, same]
    refine ⟨.of_intact wrote answered dropped, ?_, ?_⟩
    · intro isPost
      rw [answered, post isPost]
      refine ⟨by simpa using Writing.answers_not_drop wrote.writing, ?_⟩
      simp [steps, same, post isPost, Writing.waits wrote.writing]
    · intro report ok
      exact written report (ended.symm.trans ok)

/-- The second table cannot be filled: six of the twelve calls are never made. -/
theorem second_table_unfilled :
    let w : Workload := ⟨"http://localhost:8181/catalog", "my_namespace", .zero⟩
    let script : Script := [.succeed, .succeed, .succeed, .succeed, .fail (.catalog "full")]
    let program := w.runOn .writePreMigration .preMigration
    let steps := program.steps Script.answer .zero script
    Task.writePreMigration ≠ .read ∧
      (program.run Script.answer (.opening script .zero)).1 =
        .error (.write "my_table_1" (.catalog "full")) ∧
      (answers steps).length = 5 ∧
      CutAtObstacle "my_namespace" FixtureSet.preMigration.all steps
        (program.run Script.answer (.opening script .zero)).1 :=
  ⟨by decide, rfl, rfl, (writes_cut_at_first_obstacle
    ⟨"http://localhost:8181/catalog", "my_namespace", .zero⟩ .preMigration .writePreMigration
    (by decide) Script.answer (.opening _ .zero)).2.2.1⟩

/-- Once the tables are written, every table to be dropped is tried once, in order and with its
own mode, whatever the others were answered, and the log tells of each try right after it. Then
comes the one wait, and then no more calls. -/
theorem drops_isolated (w : Workload) (fixtures : FixtureSet) (some_dropped : fixtures.dropped ≠ [])
    (host : SessionHost σ) (world : World SessionCall σ)
    (written : ((writeTables w.space fixtures.all fun _ => .done (.ok ())).run host world).1 =
      .ok ()) :
    let run := (w.runOn .writePreMigration fixtures).run host world
    let steps := (w.runOn .writePreMigration fixtures).steps host world.now world.state
    ∃ (before : List SessionStep) (attempts : List DropAttempt),
      attempts.map (fun a => (a.table, a.mode)) = fixtures.dropped ∧
      run.2.history = world.history ++ happenings world.scopes steps ∧
      run.2.log.map (·.event) = world.log.map (·.event) ++ steps.flatMap Step.events ∧
      steps = before ++ attempts.flatMap (·.steps w.space) ++
        .acted (.log (waitEvent w.softDeleteWait)) :: .acted (.wait w.softDeleteWait) ::
          ending run.1 ∧
      (calls steps).filter (·.isDrop) =
        fixtures.dropped.map (fun p => .drop w.space p.1 p.2) ∧
      waits steps = [w.softDeleteWait] ∧
      (acts steps).count (.log (waitEvent w.softDeleteWait)) = 1 ∧
      ((∀ a ∈ attempts, a.answer = .ok ()) → run.1 = .ok ⟨.writePreMigration,
        fixtures.all.map (·.name), fixtures.dropped.map (·.1.name), [], w.softDeleteWait⟩) ∧
      ((¬ ∀ a ∈ attempts, a.answer = .ok ()) →
        run.1 = .error (.drop (attempts.filterMap (·.failure?)))) := by
  intro run steps
  obtain ⟨phase, stop, s₁, wrote, goes⟩ :=
    writeTables_goesOn host w.space world.now fixtures.all world.state
  cases stop with
  | some stopped =>
    rw [run_result, (goes _).outcome] at written
    cases written
  | none =>
    obtain ⟨attempts, s₂, order, dropping⟩ :=
      afterWrites_goesOn host w fixtures some_dropped world.now s₁
    have ran : GoesOn host (w.task .writePreMigration fixtures) world.now world.state _ _ _ s₂ :=
      (goes (w.afterWrites fixtures)).trans dropping
    obtain ⟨same, ended⟩ := runOn_of_goesOn ran
    refine ⟨w.opening .writePreMigration ++ phase, attempts, order, run_history .., run_log ..,
      ?_, ?_, ?_, ?_, fun ok => ended.trans (dropResult_of_ok order ok),
      fun failed => ended.trans (dropResult_of_failed failed)⟩
    · simp [steps, run, same, ended]
    · simp [steps, same, Writing.drops wrote.writing, DropAttempt.drops_steps order]
    · simp [steps, same, Writing.waits wrote.writing, DropAttempt.waits_steps, Act.wait?]
    · rw [show steps = _ from same]
      exact count_waitEvent wrote.writing w.space attempts w.softDeleteWait

/-- The first of two drops fails: the second is tried all the same, and the wait is not left out. -/
theorem first_drop_refused :
    let w : Workload := ⟨"http://localhost:8181/catalog", "my_namespace", .ofSeconds 2⟩
    let script : Script := List.replicate 12 .succeed ++ [.fail (.catalog "held")]
    let program := w.runOn .writePreMigration .preMigration
    FixtureSet.preMigration.dropped ≠ [] ∧
      ((writeTables w.space FixtureSet.preMigration.all fun _ => .done (.ok ())).run Script.answer
        (.opening script .zero)).1 = .ok () ∧
      (program.run Script.answer (.opening script .zero)).1 =
        .error (.drop [⟨"my_table_2", .soft, .catalog "held"⟩]) ∧
      waits (program.steps Script.answer .zero script) = [.ofSeconds 2] := by
  intro w script program
  have some_dropped : FixtureSet.preMigration.dropped ≠ [] := by decide
  have written : ((writeTables w.space FixtureSet.preMigration.all fun _ => .done (.ok ())).run
    Script.answer (.opening script .zero)).1 = .ok () := rfl
  obtain ⟨-, -, -, -, -, -, -, waited, -⟩ :=
    drops_isolated w .preMigration some_dropped Script.answer (.opening script .zero) written
  exact ⟨some_dropped, written, rfl, waited⟩

end Workload

end CatalogMigration
