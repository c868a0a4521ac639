import CatalogMigration.Proofs.Catalog.History
import CatalogMigration.Proofs.Catalog.Write
import CatalogMigration.Proofs.Session.Timing
import CatalogMigration.Proofs.Workload.Calls

namespace CatalogMigration

open Program

inductive Workload.DropsTried : Except Failure Report → Prop
  | ok (report : Report) : DropsTried (.ok report)
  | failed (failures : List DropFailure) : DropsTried (.error (.drop failures))

theorem SessionProgram.attempt_waitsLast {α : Type} {span : Span} {kind : Except Failure α → Prop}
    {c : SessionCall} {failure : SessionError → Failure}
    {next : c.Result → SessionProgram (Except Failure α)}
    (unlike : ∀ e, ¬ kind (.error (failure e))) (rest : ∀ r, WaitsLast span kind (next r)) :
    WaitsLast span kind (SessionProgram.attempt c failure next) := by
  refine .call fun r => ?_
  cases r with
  | error e => exact .other (unlike e)
  | ok r => exact rest r

namespace Workload

variable {w : Workload} {fixtures : FixtureSet}

theorem writeTables_waitsLast {span : Span} {space : String} {tables : List Fixture}
    {next : List String → SessionProgram (Except Failure Report)}
    (rest : ∀ names, WaitsLast span DropsTried (next names)) :
    WaitsLast span DropsTried (writeTables space tables next) := by
  induction tables generalizing next with
  | nil => exact rest []
  | cons t ts ih =>
    refine SessionProgram.attempt_waitsLast nofun fun _ =>
      SessionProgram.attempt_waitsLast nofun fun _ =>
      SessionProgram.attempt_waitsLast nofun fun scan => .act _ ?_
    cases t.verify scan with
    | error failure => exact .other nofun
    | ok _ => exact ih fun names => rest _

theorem writePreMigration_waitsLast (some_dropped : fixtures.dropped ≠ []) :
    WaitsLast w.softDeleteWait DropsTried (w.writePreMigration fixtures) := by
  refine writeTables_waitsLast fun written => ?_
  rw [if_neg some_dropped]
  exact .bind _ fun _ => .act _ (.wait (.done _))

theorem run_waitsLast (some_dropped : fixtures.dropped ≠ []) :
    WaitsLast w.softDeleteWait DropsTried (w.start (w.runOn .writePreMigration fixtures)) := by
  refine SessionProgram.attempt_waitsLast nofun fun _ => .act _ (.act _ (.act _ ?_))
  refine (writePreMigration_waitsLast some_dropped).bind_quiet (fun result => ?_) ?_
  · cases result with
    | error failure => exact .act _ (.done _)
    | ok report => exact .act _ (.act _ (.done _))
  · intro result unlike
    cases result with
    | error failure => exact .act _ (.other unlike)
    | ok report => exact absurd (.ok report) unlike

end Workload

namespace Catalog

variable {c : Catalog} {before now later : Span}

theorem not_retained_of_dated (dated : c.Dated before)
    (outlasted : before.nanos + c.retention.nanos ≤ later.nanos) {key : TableKey} {t : Tombstone}
    (found : c.tombstones.get? key = some t) : c.isRetained later t = false := by
  have past := dated key t found
  simp only [isRetained, decide_eq_false_iff_not]
  omega

theorem expired_of_dated (keyed : c.Keyed) (dated : c.Dated before)
    (outlasted : before.nanos + c.retention.nanos ≤ later.nanos) :
    (∀ space, c.tombstonedTables later space = []) ∧ ∀ key, (c.undrop later key).1 = false := by
  refine ⟨fun space => List.eq_nil_iff_forall_not_mem.mpr fun name listed => ?_, fun key => ?_⟩
  · obtain ⟨t, found, retained⟩ := keyed.mem_tombstonedTables.mp listed
    rw [not_retained_of_dated dated outlasted found] at retained
    cases retained
  · cases found : c.tombstones.get? key with
    | none => rw [undrop_of_unburied found]
    | some t => rw [undrop_of_expired found (not_retained_of_dated dated outlasted found)]

def Granted (failing : List String) : (call : SessionCall) × call.Answer → Prop
  | ⟨.drop _ t _, .ok _⟩ => t.name ∉ failing
  | _ => True

theorem answer_granted (call : SessionCall) (now : Span) (c : Catalog) :
    Granted c.failingDrops ⟨call, (answer call now c).1⟩ := by
  cases call with
  | drop space t mode =>
    by_cases refused : t.name ∈ c.failingDrops
    · cases reachable : c.unreachable <;> simp [answer, reachable, drop, refused, Granted]
    · cases (answer (.drop space t mode) now c).1 with
      | ok _ => exact refused
      | error _ => trivial
  | _ => trivial

theorem accepted_of_answered {space : String} {t : Fixture} {mode : DropMode} {α : Type}
    {p : SessionProgram α}
    (answered : ⟨.drop space t mode, .ok ()⟩ ∈ answers (p.steps answer now c)) :
    t.name ∉ c.failingDrops :=
  answers_invariant answer (fun d => d.failingDrops = c.failingDrops) (Granted c.failingDrops)
    (fun call now d same => (answer_continues call now d).failingDrops.trans same)
    (fun call now d same => same ▸ answer_granted call now d) p now c rfl _ answered

end Catalog

namespace Workload

variable {c : Catalog} {now : Span} {w : Workload} {fixtures : FixtureSet} {space : String}
  {t : Fixture} {α : Type}

theorem writeTable_outcome_of_refused {next : SessionProgram (Except Failure α)}
    (reachable : c.unreachable = false) (known : space ∈ c.spaces)
    (refused : t.name ∈ c.failingAppends) :
    ∃ e, ((writeTable space t next).outcome Catalog.answer now c).result =
      .error (.write t.name e) := by
  let blank : Catalog := { c with live := c.live.insert (t.key space) ⟨t.schema, []⟩ }
  have created : Catalog.answer (.create space t) now c = (.ok (), blank, _) :=
    Catalog.answer_create reachable known
  have unfilled : Catalog.answer (.append space t t.expectedRows) now blank =
      (.error (.catalog ("commit to " ++ (t.key space).display ++ " rejected")), blank, []) := by
    simp [Catalog.answer, blank, reachable, Catalog.append, refused, Fixture.key]
  have went : GoesOn Catalog.answer (writeTable space t next) now c _ _ now blank :=
    (GoesOn.attempt_ok created).trans (GoesOn.attempt_error unfilled)
  exact ⟨_, congrArg Outcome.result went.outcome⟩

theorem writeTables_outcome_of_refused {tables : List Fixture} (now : Span)
    (next : List String → SessionProgram (Except Failure α)) (reachable : c.unreachable = false)
    (known : space ∈ c.spaces) (refused : ∃ t ∈ tables, t.name ∈ c.failingAppends) :
    ∃ name e, ((writeTables space tables next).outcome Catalog.answer now c).result =
      .error (.write name e) := by
  induction tables generalizing next c with
  | nil => simp at refused
  | cons t ts ih =>
    by_cases first : t.name ∈ c.failingAppends
    · exact ⟨t.name, writeTable_outcome_of_refused reachable known first⟩
    · have others : ∃ u ∈ ts, u.name ∈ c.failingAppends := by simpa [first] using refused
      rw [writeTables, eachTable, writeTable_outcome reachable known first]
      exact ih (c := c.filled space [t]) _ reachable known others

theorem start_outcome_of_offline (w : Workload) (next : SessionProgram (Except Failure α))
    (now : Span) (offline : c.unreachable = true) : (w.start next).outcome Catalog.answer now c =
      ⟨.error (.connection w.catalogUrl Catalog.offline), now, c⟩ := by
  have refused : Catalog.answer (.ensureNamespace w.space) now c =
      (.error Catalog.offline, c, []) := by
    simp [Catalog.answer, offline]
  exact (GoesOn.attempt_error refused).outcome

theorem start_writePreMigration_outcome (w : Workload) (fixtures : FixtureSet) (now : Span)
    (reachable : c.unreachable = false) (appends : ∀ t ∈ fixtures.all, t.name ∉ c.failingAppends) :
    ∃ after,
      Catalog.Buried now w.space (c.accepted fixtures.dropped)
        ((c.ensureNamespace w.space).1.filled w.space fixtures.all) after ∧
      (w.start (w.runOn .writePreMigration fixtures)).outcome Catalog.answer now c =
        ⟨if c.refused fixtures.dropped = [] then .ok (w.prepared fixtures)
          else .error (.drop ((c.refused fixtures.dropped).map (refusal w.space))),
          if fixtures.dropped = [] then now else Act.after now (.wait w.softDeleteWait),
          after⟩ := by
  obtain ⟨spaces, known, ensured⟩ := c.ensureNamespace_fst w.space
  rw [start_outcome w _ now reachable, runOn_outcome, ensured]
  exact writePreMigration_outcome (c := { c with spaces }) w fixtures now reachable known appends

theorem appends_of_dropsTried (tried : DropsTried
      ((w.start (w.runOn .writePreMigration fixtures)).outcome Catalog.answer now c).result) :
    c.unreachable = false ∧ ∀ t ∈ fixtures.all, t.name ∉ c.failingAppends := by
  cases reachable : c.unreachable with
  | true =>
    rw [start_outcome_of_offline w _ now reachable] at tried
    cases tried
  | false =>
    refine ⟨rfl, ?_⟩
    by_contra refused
    obtain ⟨spaces, known, ensured⟩ := c.ensureNamespace_fst w.space
    obtain ⟨name, e, failed⟩ := writeTables_outcome_of_refused (c := { c with spaces }) now
      (w.afterWrites fixtures) reachable known (by simpa using refused)
    rw [start_outcome w _ now reachable, runOn_outcome, ensured, task, writePreMigration_eq,
      failed] at tried
    cases tried

/-- What becomes of a dropped table, by the mode of its drop. -/
inductive Fate (c : Catalog) (now : Span) (space : String) (t : Fixture) : DropMode → Prop
  | recoverable (listed : t.name ∈ c.tombstonedTables now space)
    (undropped : (c.undrop now (t.key space)).1 = true)
    (restored : (c.undrop now (t.key space)).2.live.get? (t.key space) =
      some ⟨t.schema, fixtureRows⟩) : Fate c now space t .soft
  | lost (unlisted : t.name ∉ c.tombstonedTables now space)
    (refused : c.undrop now (t.key space) = (false, c)) : Fate c now space t .purge

theorem Fate.of_buried {before after : Catalog} {pairs : List (Fixture × DropMode)}
    {mode : DropMode} {later : Span} (keyed : after.Keyed)
    (buried : Catalog.Buried now space pairs before after)
    (within : later.nanos < now.nanos + before.retention.nanos) (positive : now.nanos ≤ later.nanos)
    (member : (t, mode) ∈ pairs) : Fate after later space t mode := by
  have retention : after.retention = before.retention := by rw [buried.rest]
  cases mode with
  | soft =>
    have found := buried.soft t member
    have retained : after.isRetained later ⟨t.stored, now⟩ = true := by
      simp only [Catalog.isRetained, retention, decide_eq_true_iff]
      omega
    have undropped := Catalog.undrop_of_retained found retained
    refine .recoverable (keyed.mem_tombstonedTables.mpr ⟨_, found, retained⟩) ?_ ?_
    · rw [undropped]
    · rw [undropped]
      exact Assoc.get?_insert_self ..
  | purge =>
    have unburied := buried.purge t member
    refine .lost (fun listed => ?_) (Catalog.undrop_of_unburied unburied later)
    obtain ⟨t', found, -⟩ := keyed.mem_tombstonedTables.mp listed
    cases unburied.symm.trans found

/-- A write before a migration that waits for the whole retention leaves nothing recoverable, even
if time passes between its calls. If it waits for less, and time passes in its wait alone, what it
dropped softly can be brought back as it was written, and what it purged cannot. -/
theorem softly_dropped_until_retention (w : Workload) (fixtures : FixtureSet)
    (some_dropped : fixtures.dropped ≠ []) (c : Catalog) (now : Span)
    (reachable : c.ReachableBy now) :
    let program := w.start (w.runOn .writePreMigration fixtures)
    let run := program.run Catalog.answer (.opening c now)
    (∀ o, Paced Catalog.answer program now c o → DropsTried o.result →
      c.retention.nanos ≤ w.softDeleteWait.nanos →
        (∀ space, o.state.tombstonedTables o.now space = []) ∧
        ∀ key, (o.state.undrop o.now key).1 = false) ∧
    (DropsTried run.1 → w.softDeleteWait.nanos < c.retention.nanos →
      ∀ t mode, ⟨.drop w.space t mode, .ok ()⟩ ∈ answers (program.steps Catalog.answer now c) →
        Fate run.2.state run.2.now w.space t mode) := by
  intro program run
  refine ⟨fun o paced tried covered => ?_, fun tried short t mode answered => ?_⟩
  · obtain ⟨before, ⟨past, retention⟩, outlasted⟩ :=
      (run_waitsLast (w := w) some_dropped).settled
        (fun now (d : Catalog) => d.ReachableBy now ∧ d.retention = c.retention) paced tried
        (fun call now d holds => ⟨holds.1.apply (.call call),
          (Catalog.answer_continues call now d).retention.trans holds.2⟩)
        (fun now later d notBefore holds => ⟨holds.1.mono notBefore, holds.2⟩) ⟨reachable, rfl⟩
    refine Catalog.expired_of_dated past.reachable.keyed past.dated ?_
    rw [retention]
    omega
  · have ended : Outcome.mk run.1 run.2.now run.2.state = program.outcome Catalog.answer now c :=
      run_outcome ..
    have keyed := (reachable.outcome program).reachable.keyed
    rw [show run.1 = _ from congrArg Outcome.result ended] at tried
    obtain ⟨online, appends⟩ := appends_of_dropsTried tried
    obtain ⟨after, buried, whole⟩ := start_writePreMigration_outcome w fixtures now online appends
    -- Only pairs of the set are dropped, and of them those that are not made to fail.
    have member : (t, mode) ∈ c.accepted fixtures.dropped := by
      have issued : (t, mode) ∈ fixtures.dropped := by
        rcases (start_only w (runOn_only w .writePreMigration fixtures)).answers _ _ _ _ answered
          with first | ⟨-, issued⟩
        · cases first
        · exact issued
      simpa [Catalog.accepted, issued] using Catalog.accepted_of_answered answered
    have retention : (c.ensureNamespace w.space).1.retention = c.retention :=
      (c.ensureNamespace_continues w.space).retention
    rw [show run.2.now = _ from congrArg Outcome.now ended,
      show run.2.state = _ from congrArg Outcome.state ended]
    rw [show program.outcome Catalog.answer now c = _ from whole, if_neg some_dropped] at keyed ⊢
    refine Fate.of_buried keyed buried ?_ (Act.le_after _ now) member
    show now.nanos + w.softDeleteWait.nanos <
      now.nanos + (c.ensureNamespace w.space).1.retention.nanos
    rw [retention]
    exact Nat.add_lt_add_left short _

/-- A tombstone of an earlier run, and a drop that is made to fail. A wait of two seconds is shorter
than the retention, one of three is not. -/
theorem tombstones_outlive_short_wait :
    let c := (Catalog.empty (.ofSeconds 3)).after
      [(.zero, .call (.ensureNamespace "my_namespace")),
        (.zero, .call (.create "my_namespace" (.maintained "my_table_0"))),
        (.ofSeconds 1, .call (.drop "my_namespace" (.maintained "my_table_0") .soft)),
        (.ofSeconds 1, .failDropsOf "my_table_3")]
    let short : Workload := ⟨"http://localhost:8181/catalog", "my_namespace", .ofSeconds 2⟩
    let long : Workload := ⟨"http://localhost:8181/catalog", "my_namespace", .ofSeconds 3⟩
    let early := (short.start (short.runOn .writePreMigration .preMigration)).run Catalog.answer
      (.opening c (.ofSeconds 2))
    let late := (long.start (long.runOn .writePreMigration .preMigration)).outcome Catalog.answer
      (.ofSeconds 2) c
    FixtureSet.preMigration.dropped ≠ [] ∧ c.ReachableBy (.ofSeconds 2) ∧
      DropsTried early.1 ∧ DropsTried late.result ∧
      Fate early.2.state early.2.now "my_namespace" (.dropped "my_table_2" .soft) .soft ∧
      late.state.tombstonedTables late.now "my_namespace" = [] := by
  intro c short long early late
  have some_dropped : FixtureSet.preMigration.dropped ≠ [] := by decide
  have reachable : c.ReachableBy (.ofSeconds 2) := ⟨_, by decide, by decide, rfl⟩
  have refused : early.1 = .error (.drop [⟨"my_table_3", .purge,
      .catalog "drop of my_namespace.my_table_3 rejected"⟩]) := by
    subst early short c
    decide +kernel
  have refused' : late.result = .error (.drop [⟨"my_table_3", .purge,
      .catalog "drop of my_namespace.my_table_3 rejected"⟩]) := by
    subst late long c
    decide +kernel
  have early_tried : DropsTried early.1 := by
    rw [refused]
    exact .failed _
  have late_tried : DropsTried late.result := by
    rw [refused']
    exact .failed _
  have accepted : (answers ((short.start (short.runOn .writePreMigration .preMigration)).steps
      Catalog.answer (.ofSeconds 2) c))[13]? =
        some ⟨.drop "my_namespace" (.dropped "my_table_2" .soft) .soft, .ok ()⟩ := by
    subst short c
    rfl
  obtain ⟨-, fate⟩ :=
    softly_dropped_until_retention short .preMigration some_dropped c (.ofSeconds 2) reachable
  obtain ⟨expired, -⟩ :=
    softly_dropped_until_retention long .preMigration some_dropped c (.ofSeconds 2) reachable
  have within : short.softDeleteWait.nanos < c.retention.nanos := by
    subst short c
    decide +kernel
  have covered : c.retention.nanos ≤ long.softDeleteWait.nanos := by
    subst long c
    decide +kernel
  exact ⟨some_dropped, reachable, early_tried, late_tried,
    fate early_tried within _ _ (List.mem_of_getElem? accepted),
    (expired late (.exact ..) late_tried covered).1 "my_namespace"⟩

end Workload

end CatalogMigration
