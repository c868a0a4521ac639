import CatalogMigration.Proofs.Catalog.Effect
import CatalogMigration.Proofs.Catalog.Read

namespace CatalogMigration

open Program

namespace Workload

variable {c : Catalog} {space : String} {t : Fixture} {now : Span} {w : Workload} {α : Type}

theorem writeTable_outcome {next : SessionProgram (Except Failure α)}
    (reachable : c.unreachable = false) (known : space ∈ c.spaces)
    (accepted : t.name ∉ c.failingAppends) :
    (writeTable space t next).outcome Catalog.answer now c =
      next.outcome Catalog.answer now (c.filled space [t]) := by
  let blank : Catalog := { c with live := c.live.insert (t.key space) ⟨t.schema, []⟩ }
  have created : Catalog.answer (.create space t) now c = (.ok (), blank, _) :=
    Catalog.answer_create reachable known
  have appended : Catalog.answer (.append space t t.expectedRows) now blank =
      (.ok (), c.filled space [t], []) := by
    have found : blank.live.get? (t.key space) = some ⟨t.schema, []⟩ := Assoc.get?_insert_self ..
    rw [Catalog.answer_append (c := blank) reachable accepted found]
    simp [blank, Catalog.filled, Fixture.stored, Fixture.expectedRows]
  have scanned : Catalog.answer (.scan space t) now (c.filled space [t]) =
      (.ok ⟨t.schema, fixtureRows⟩, c.filled space [t], []) := by
    have found : (c.filled space [t]).live.get? (t.key space) = some t.stored :=
      Catalog.live_filled_of_mem (List.nodup_singleton _) (List.mem_singleton_self t)
    rw [Catalog.answer_scan (c := c.filled space [t]) reachable, Catalog.scan_of_found found,
      Fixture.stored]
  have same : t.verify ⟨t.schema, fixtureRows⟩ = .ok () := Fixture.verify_of_perm rfl .rfl
  have went : GoesOn Catalog.answer (writeTable space t next) now c _ _ now (c.filled space [t]) :=
    (GoesOn.attempt_ok created).trans ((GoesOn.attempt_ok appended).trans
      ((GoesOn.attempt_ok scanned).trans (.act _)))
  simp only [same] at went
  exact went.outcome

theorem writeTables_outcome {next : List String → SessionProgram (Except Failure α)}
    {tables : List Fixture} (reachable : c.unreachable = false) (known : space ∈ c.spaces)
    (accepted : ∀ t ∈ tables, t.name ∉ c.failingAppends) :
    (writeTables space tables next).outcome Catalog.answer now c =
      (next (tables.map (·.name))).outcome Catalog.answer now (c.filled space tables) := by
  induction tables generalizing next c with
  | nil => rfl
  | cons t ts ih =>
    rw [writeTables, eachTable, writeTable_outcome reachable known (accepted t (by simp)),
      Catalog.filled_cons]
    exact ih reachable known fun u member => accepted u (by simp [member])

def refusal (space : String) (p : Fixture × DropMode) : DropFailure :=
  ⟨p.1.name, p.2, .catalog ("drop of " ++ (p.1.key space).display ++ " rejected")⟩

theorem dropTables_outcome {pairs : List (Fixture × DropMode)} (now : Span)
    (reachable : c.unreachable = false)
    (live : ∀ p ∈ pairs, c.live.get? (p.1.key space) = some p.1.stored)
    (distinct : (pairs.map (·.1.name)).Nodup) :
    ∃ after, Catalog.Buried now space (c.accepted pairs) c after ∧
      (dropTables space pairs).outcome Catalog.answer now c =
        ⟨((c.accepted pairs).map (·.1.name), (c.refused pairs).map (refusal space)), now,
          after⟩ := by
  induction pairs generalizing c with
  | nil => exact ⟨c, .nil, rfl⟩
  | cons p rest ih =>
    obtain ⟨t, mode⟩ := p
    obtain ⟨fresh, distinct⟩ := List.nodup_cons.mp distinct
    have found := live _ (List.mem_cons_self ..)
    by_cases refused : t.name ∈ c.failingDrops
    · have accepted : c.accepted ((t, mode) :: rest) = c.accepted rest :=
        List.filter_cons_of_neg (by simpa using refused)
      have kept : c.refused ((t, mode) :: rest) = (t, mode) :: c.refused rest :=
        List.filter_cons_of_pos (by simpa using refused)
      have answered : Catalog.answer (.drop space t mode) now c =
          (.error (refusal space (t, mode)).source, c, []) := by
        rw [Catalog.answer_drop reachable, Catalog.drop, if_pos refused]
        rfl
      have others := fun q member => live q (List.mem_cons_of_mem _ member)
      obtain ⟨after, buried, ended⟩ := ih reachable others distinct
      rw [accepted, kept, dropTables_cons_error rest answered, ended]
      exact ⟨after, buried, rfl⟩
    · have accepted : c.accepted ((t, mode) :: rest) = (t, mode) :: c.accepted rest :=
        List.filter_cons_of_pos (by simpa using refused)
      have kept : c.refused ((t, mode) :: rest) = c.refused rest :=
        List.filter_cons_of_neg (by simpa using refused)
      obtain ⟨ok, first⟩ := Catalog.Buried.drop now mode found refused
      have answered : Catalog.answer (.drop space t mode) now c =
          (.ok (), (c.drop now space t mode).2, []) := by
        rw [Catalog.answer_drop reachable, ok]
      -- The other tables have other keys, so this drop leaves them live.
      have apart : ∀ q ∈ rest, t.key space ≠ q.1.key space := by
        have names : t.name ∉ (rest.map (·.1)).map (·.name) := by simpa using fresh
        simpa using Fixture.key_ne_of_fresh names
      have others := first.live_apart apart fun q member => live q (List.mem_cons_of_mem _ member)
      obtain ⟨after, buried, ended⟩ := ih (first.unreachable.trans reachable) others distinct
      rw [Catalog.accepted, first.failingDrops] at buried
      rw [Catalog.accepted, Catalog.refused, first.failingDrops] at ended
      rw [accepted, kept, dropTables_cons_ok rest answered, ended]
      exact ⟨after, first.cons buried fun q member => apart q (List.mem_of_mem_filter member), rfl⟩

def prepared (w : Workload) (fixtures : FixtureSet) : Report :=
  ⟨.writePreMigration, fixtures.all.map (·.name), fixtures.dropped.map (·.1.name), [],
    if fixtures.dropped = [] then .zero else w.softDeleteWait⟩

theorem writePreMigration_outcome (w : Workload) (fixtures : FixtureSet) (now : Span)
    (reachable : c.unreachable = false) (known : w.space ∈ c.spaces)
    (accepted : ∀ t ∈ fixtures.all, t.name ∉ c.failingAppends) :
    ∃ after,
      Catalog.Buried now w.space (c.accepted fixtures.dropped) (c.filled w.space fixtures.all)
        after ∧
      (w.writePreMigration fixtures).outcome Catalog.answer now c =
        ⟨if c.refused fixtures.dropped = [] then .ok (w.prepared fixtures)
          else .error (.drop ((c.refused fixtures.dropped).map (refusal w.space))),
          if fixtures.dropped = [] then now else Act.after now (.wait w.softDeleteWait),
          after⟩ := by
  rw [writePreMigration_eq, writeTables_outcome reachable known accepted]
  by_cases none_dropped : fixtures.dropped = []
  · rw [(afterWrites_goesOn_of_none_dropped _ w fixtures none_dropped now _).outcome]
    refine ⟨c.filled w.space fixtures.all, ?_, ?_⟩
    · rw [none_dropped]
      exact .nil
    · simp [none_dropped, prepared, Catalog.refused, outcome]
  · have live : ∀ p ∈ fixtures.dropped,
        (c.filled w.space fixtures.all).live.get? (p.1.key w.space) = some p.1.stored :=
      fun p member =>
        Catalog.live_filled_of_mem fixtures.distinct (FixtureSet.mem_all_of_dropped member)
    obtain ⟨after, buried, ended⟩ := dropTables_outcome (c := c.filled w.space fixtures.all) now
      reachable live fixtures.distinct_dropped
    have drops : (dropTables w.space fixtures.dropped).outcome Catalog.answer now
        (c.filled w.space fixtures.all) = ⟨((c.accepted fixtures.dropped).map (·.1.name),
          (c.refused fixtures.dropped).map (refusal w.space)), now, after⟩ := ended
    refine ⟨after, buried, ?_⟩
    rw [afterWrites_outcome _ w fixtures none_dropped, drops, if_neg none_dropped]
    simp only [List.map_eq_nil_iff]
    by_cases none_refused : c.refused fixtures.dropped = []
    · rw [if_pos none_refused, if_pos none_refused, prepared, if_neg none_dropped,
        Catalog.accepted_of_none_refused none_refused]
    · rw [if_neg none_refused, if_neg none_refused]

/-- What a write before a migration makes of a catalog. -/
structure Prepares (now : Span) (space : String) (fixtures : FixtureSet)
    (before after : Catalog) : Prop where
  maintained : ∀ t ∈ fixtures.maintained,
    after.live.get? (t.key space) = some ⟨t.schema, fixtureRows⟩
  unburied : ∀ t ∈ fixtures.maintained,
    after.tombstones.get? (t.key space) = before.tombstones.get? (t.key space)
  dropped : ∀ p ∈ fixtures.dropped, after.live.get? (p.1.key space) = none ∧
    ∀ later, (Catalog.answer (.scan space p.1) later after).1 =
      .error (.notFound (p.1.key space).display)
  soft : ∀ t, (t, .soft) ∈ fixtures.dropped →
    after.tombstones.get? (t.key space) = some ⟨⟨t.schema, fixtureRows⟩, now⟩
  purge : ∀ t, (t, .purge) ∈ fixtures.dropped → after.tombstones.get? (t.key space) = none
  elsewhere : ∀ key, (∀ t ∈ fixtures.all, key ≠ t.key space) →
    after.live.get? key = before.live.get? key ∧
      after.tombstones.get? key = before.tombstones.get? key
  recorded : after.drops =
    before.drops ++ fixtures.dropped.map fun p => ⟨p.1.key space, p.2, now⟩

theorem prepares_of_buried {fixtures : FixtureSet} {before after : Catalog}
    (online : after.unreachable = false)
    (buried : Catalog.Buried now space fixtures.dropped (before.filled space fixtures.all) after) :
    Prepares now space fixtures before after := by
  refine ⟨?_, ?_, ?_, buried.soft, buried.purge, ?_, buried.recorded⟩
  · intro t kept
    obtain ⟨live, -⟩ := buried.elsewhere (t.key space) fun p =>
      FixtureSet.maintained_key_ne_dropped kept
    rw [live]
    exact Catalog.live_filled_of_mem fixtures.distinct (FixtureSet.mem_all_of_maintained kept)
  · intro t kept
    obtain ⟨-, tombstones⟩ := buried.elsewhere (t.key space) fun p =>
      FixtureSet.maintained_key_ne_dropped kept
    exact tombstones
  · intro p member
    refine ⟨buried.gone p member, fun later => ?_⟩
    rw [Catalog.answer_scan online, Catalog.scan_of_lost (buried.gone p member)]
  · intro key apart
    obtain ⟨live, tombstones⟩ := buried.elsewhere key fun p member =>
      apart p.1 (FixtureSet.mem_all_of_dropped member)
    exact ⟨live.trans (Catalog.live_filled_of_forall_ne apart), tombstones⟩

/-- On any catalog that takes its writes and drops, whatever stale tables and tombstones it holds, a
write before a migration succeeds and leaves what it reports. A read right after it succeeds. -/
theorem writePreMigration_prepares (w : Workload) (fixtures : FixtureSet)
    (world : World SessionCall Catalog) (reachable : world.state.unreachable = false)
    (appends : ∀ t ∈ fixtures.all, t.name ∉ world.state.failingAppends)
    (drops : ∀ p ∈ fixtures.dropped, p.1.name ∉ world.state.failingDrops) :
    let run := (w.start (w.runOn .writePreMigration fixtures)).run Catalog.answer world
    run.1 = .ok (w.prepared fixtures) ∧
    Prepares world.now w.space fixtures world.state run.2.state ∧
    ∀ reader : Workload, reader.space = w.space →
      ((reader.start (reader.runOn .read fixtures)).run Catalog.answer run.2).1 =
        .ok ⟨.read, [], [], fixtures.maintained.map (·.name), .zero⟩ := by
  intro run
  have course := start_outcome w (w.runOn .writePreMigration fixtures) world.now reachable
  obtain ⟨spaces, known, ensured⟩ := world.state.ensureNamespace_fst w.space
  obtain ⟨after, buried, ended⟩ := writePreMigration_outcome
    (c := { world.state with spaces }) w fixtures world.now reachable known appends
  have none_refused : Catalog.refused { world.state with spaces } fixtures.dropped = [] := by
    simpa [Catalog.refused] using drops
  rw [Catalog.accepted_of_none_refused none_refused] at buried
  rw [ensured, runOn_outcome] at course
  rw [if_pos none_refused] at ended
  have wrote := course.trans ended
  have state : run.2.state = after := by rw [run_state, wrote]
  have online : after.unreachable = false := buried.unreachable.trans reachable
  have prepares := prepares_of_buried online buried
  have intact : ∀ t ∈ fixtures.maintained, after.Intact w.space t :=
    fun t kept => ⟨_, prepares.maintained t kept, rfl, .rfl⟩
  rw [state]
  refine ⟨by rw [run_result, wrote], ?_, fun reader same_space => ?_⟩
  · exact ⟨prepares.maintained, prepares.unburied, prepares.dropped, prepares.soft, prepares.purge,
      prepares.elsewhere, prepares.recorded⟩
  · rw [← same_space] at intact
    rw [run_result, state, read_outcome_of_intact _ online intact]

/-- A live table with another schema and an old tombstone of a table to be purged. -/
theorem stale_tables_replaced :
    let w : Workload := ⟨"http://localhost:8181/catalog", "my_namespace", .ofSeconds 2⟩
    let stale := (Catalog.empty (.ofSeconds 1)).after
      [(.zero, .call (.ensureNamespace "my_namespace")),
        (.zero, .call (.create "my_namespace" ⟨"my_table_0", .maintained, ⟨[]⟩⟩)),
        (.zero, .call (.create "my_namespace" (.maintained "my_table_3"))),
        (.zero, .call (.drop "my_namespace" (.maintained "my_table_3") .soft)),
        (.zero, .failAppendsTo "my_table_4")]
    let run := (w.start (w.runOn .writePreMigration .preMigration)).run Catalog.answer
      (.opening stale .zero)
    stale.unreachable = false ∧
    (∀ t ∈ FixtureSet.preMigration.all, t.name ∉ stale.failingAppends) ∧
    (∀ p ∈ FixtureSet.preMigration.dropped, p.1.name ∉ stale.failingDrops) ∧
    (stale.tombstones.get? ⟨"my_namespace", "my_table_3"⟩).isSome ∧
    run.1 = .ok ⟨.writePreMigration, ["my_table_0", "my_table_1", "my_table_2", "my_table_3"],
      ["my_table_2", "my_table_3"], [], .ofSeconds 2⟩ ∧
    run.2.state.live.get? ⟨"my_namespace", "my_table_0"⟩ = some ⟨.fixture, fixtureRows⟩ ∧
    run.2.state.tombstones.get? ⟨"my_namespace", "my_table_3"⟩ = none := by
  intro w stale run
  have reachable : stale.unreachable = false := by
    subst stale
    decide +kernel
  have appends : ∀ t ∈ FixtureSet.preMigration.all, t.name ∉ stale.failingAppends := by
    subst stale
    decide +kernel
  have drops : ∀ p ∈ FixtureSet.preMigration.dropped, p.1.name ∉ stale.failingDrops := by
    subst stale
    decide +kernel
  have buried : (stale.tombstones.get? ⟨"my_namespace", "my_table_3"⟩).isSome := by
    subst stale
    decide +kernel
  obtain ⟨wrote, prepares, -⟩ :=
    writePreMigration_prepares w .preMigration (.opening stale .zero) reachable appends drops
  exact ⟨reachable, appends, drops, buried, wrote,
    prepares.maintained (.maintained "my_table_0") (by decide),
    prepares.purge (.dropped "my_table_3" .purge) (by decide)⟩

end Workload

end CatalogMigration
