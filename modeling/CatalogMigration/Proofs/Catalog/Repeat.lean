import CatalogMigration.Proofs.Catalog.Expiry

namespace CatalogMigration

open Program

namespace Catalog

variable {a b c : Catalog} {now later : Span} {key : TableKey}

/-- What is left of a softly dropped table, and whether it can be brought back. -/
def remnant? (c : Catalog) (now : Span) (key : TableKey) : Option (StoredTable × Bool) :=
  (c.tombstones.get? key).map fun t => (t.table, c.isRetained now t)

theorem undrop_fst (c : Catalog) (now : Span) (key : TableKey) :
    (c.undrop now key).1 = (c.remnant? now key).any (·.2) := by
  cases found : c.tombstones.get? key with
  | none => simp [undrop_of_unburied found, remnant?, found]
  | some t =>
    cases retained : c.isRetained now t with
    | true => simp [undrop_of_retained found retained, remnant?, found, retained]
    | false => simp [undrop_of_expired found retained, remnant?, found, retained]

theorem live_undrop (c : Catalog) (now : Span) (key other : TableKey) :
    (c.undrop now key).2.live.get? other =
      match c.remnant? now key with
      | some (table, true) => if other = key then some table else c.live.get? other
      | _ => c.live.get? other := by
  cases found : c.tombstones.get? key with
  | none => simp [undrop_of_unburied found, remnant?, found]
  | some t =>
    cases retained : c.isRetained now t with
    | true =>
      simp [undrop_of_retained found retained, remnant?, found, retained, Assoc.get?_insert]
    | false => simp [undrop_of_expired found retained, remnant?, found, retained]

/-- Two catalogs, each at its time, that nothing but the record of drops tells apart. -/
structure Alike (now later : Span) (a b : Catalog) : Prop where
  spaces : ∀ space, space ∈ a.spaces ↔ space ∈ b.spaces
  live : ∀ key, a.live.get? key = b.live.get? key
  liveTables : ∀ space, a.liveTables space = b.liveTables space
  tombstonedTables : ∀ space, a.tombstonedTables now space = b.tombstonedTables later space
  undropped : ∀ key, (a.undrop now key).1 = (b.undrop later key).1
  restored : ∀ key other,
    (a.undrop now key).2.live.get? other = (b.undrop later key).2.live.get? other

theorem retained_iff : (∃ t, c.tombstones.get? key = some t ∧ c.isRetained now t = true) ↔
    (c.remnant? now key).any (·.2) = true := by
  cases found : c.tombstones.get? key <;> simp [remnant?, found]

theorem Alike.of_remnants (keyed : a.Keyed) (keyed' : b.Keyed) (spaces : a.spaces = b.spaces)
    (live : ∀ key, a.live.get? key = b.live.get? key)
    (remnants : ∀ key, a.remnant? now key = b.remnant? later key) : Alike now later a b where
  spaces space := by rw [spaces]
  live := live
  liveTables space := by
    rw [liveTables_eq_listed, liveTables_eq_listed]
    exact keyed.live.listed_congr keyed'.live fun name => by rw [live]
  tombstonedTables space := by
    rw [tombstonedTables_eq_listed, tombstonedTables_eq_listed]
    exact keyed.tombstones.listed_congr keyed'.tombstones fun name => by
      rw [retained_iff, retained_iff, remnants]
  undropped key := by rw [undrop_fst, undrop_fst, remnants]
  restored key other := by rw [live_undrop, live_undrop, remnants, live]

theorem Alike.refl (c : Catalog) (now : Span) : Alike now now c c :=
  ⟨fun _ => Iff.rfl, fun _ => rfl, fun _ => rfl, fun _ => rfl, fun _ => rfl, fun _ _ => rfl⟩

theorem Keyed.outcome {α : Type} (keyed : c.Keyed) (p : SessionProgram α) (now : Span) :
    (p.outcome answer now c).state.Keyed :=
  outcome_invariant answer Keyed (fun call now d => (answer_transition call now d).keyed) p now c
    keyed

theorem outcome_continues {α : Type} (p : SessionProgram α) (now : Span) (c : Catalog) :
    Continues c (p.outcome answer now c).state :=
  outcome_invariant answer (Continues c)
    (fun call now d before => before.trans (answer_continues call now d)) p now c (.refl c)

theorem ensureNamespace_of_known {space : String} (known : space ∈ c.spaces) :
    c.ensureNamespace space = (c, []) := if_pos known

end Catalog

namespace Workload

variable {c before middle after : Catalog} {now later : Span} {space : String}
  {fixtures : FixtureSet}

theorem key_cases (fixtures : FixtureSet) (space : String) (key : TableKey) :
    (∃ t ∈ fixtures.maintained, key = t.key space) ∨
      (∃ p ∈ fixtures.dropped, key = p.1.key space) ∨ ∀ t ∈ fixtures.all, key ≠ t.key space := by
  by_cases kept : ∃ t ∈ fixtures.maintained, key = t.key space
  · exact .inl kept
  · by_cases dropped : ∃ p ∈ fixtures.dropped, key = p.1.key space
    · exact .inr (.inl dropped)
    · refine .inr (.inr fun t member same => ?_)
      rcases List.mem_append.mp member with member | member
      · exact kept ⟨t, member, same⟩
      · obtain ⟨p, among, rfl⟩ := List.mem_map.mp member
        exact dropped ⟨p, among, same⟩

theorem Prepares.live_twice (once : Prepares now space fixtures before middle)
    (twice : Prepares later space fixtures middle after) (key : TableKey) :
    after.live.get? key = middle.live.get? key := by
  rcases key_cases fixtures space key with ⟨t, kept, rfl⟩ | ⟨p, dropped, rfl⟩ | apart
  · rw [once.maintained t kept, twice.maintained t kept]
  · rw [(once.dropped p dropped).1, (twice.dropped p dropped).1]
  · exact (twice.elsewhere key apart).1

theorem Prepares.remnants_twice {first second : Span}
    (once : Prepares now space fixtures before middle)
    (twice : Prepares later space fixtures middle after)
    (only_dropped : ∀ key, before.tombstones.get? key ≠ none →
      ∃ p ∈ fixtures.dropped, key = p.1.key space)
    (retention : after.retention = middle.retention)
    (same_age : second.nanos - later.nanos = first.nanos - now.nanos) (key : TableKey) :
    after.remnant? second key = middle.remnant? first key := by
  have unburied (other : ¬ ∃ p ∈ fixtures.dropped, key = p.1.key space) :
      before.tombstones.get? key = none := not_not.mp (mt (only_dropped key) other)
  rcases key_cases fixtures space key with ⟨t, kept, rfl⟩ | ⟨p, dropped, rfl⟩ | apart
  · have none_left : before.tombstones.get? (t.key space) = none := by
      refine unburied ?_
      rintro ⟨p, dropped, same⟩
      exact FixtureSet.maintained_key_ne_dropped kept dropped same
    rw [Catalog.remnant?, Catalog.remnant?, twice.unburied t kept, once.unburied t kept, none_left]
    rfl
  · obtain ⟨t, mode⟩ := p
    cases mode with
    | soft =>
      rw [Catalog.remnant?, Catalog.remnant?, once.soft t dropped, twice.soft t dropped]
      simp [Catalog.isRetained, retention, same_age]
    | purge =>
      rw [Catalog.remnant?, Catalog.remnant?, once.purge t dropped, twice.purge t dropped]
      rfl
  · have none_left : before.tombstones.get? key = none := by
      refine unburied ?_
      rintro ⟨p, dropped, same⟩
      exact apart p.1 (FixtureSet.mem_all_of_dropped dropped) same
    rw [Catalog.remnant?, Catalog.remnant?, (twice.elsewhere key apart).2,
      (once.elsewhere key apart).2, none_left]
    rfl

structure Ran (w : Workload) (fixtures : FixtureSet) (now : Span) (before after : Catalog) :
    Prop where
  tables : Prepares now w.space fixtures (before.ensureNamespace w.space).1 after
  spaces : after.spaces = (before.ensureNamespace w.space).1.spaces
  continues : Catalog.Continues before after
  keyed : before.Keyed → after.Keyed

def dropRecords (w : Workload) (fixtures : FixtureSet) (now : Span) : List DropRecord :=
  fixtures.dropped.map fun p => ⟨p.1.key w.space, p.2, now⟩

def returns (w : Workload) (fixtures : FixtureSet) (now : Span) : Span :=
  if fixtures.dropped = [] then now else Act.after now (.wait w.softDeleteWait)

theorem returns_sub (w : Workload) (fixtures : FixtureSet) (now later : Span) :
    (w.returns fixtures now).nanos - now.nanos =
      (w.returns fixtures later).nanos - later.nanos := by
  unfold returns
  split
  · omega
  · simp [Act.after]

theorem exists_ran (w : Workload) (fixtures : FixtureSet) (now : Span)
    (reachable : c.unreachable = false) (appends : ∀ t ∈ fixtures.all, t.name ∉ c.failingAppends)
    (drops : ∀ p ∈ fixtures.dropped, p.1.name ∉ c.failingDrops) :
    ∃ after, (w.start (w.runOn .writePreMigration fixtures)).outcome Catalog.answer now c =
      ⟨.ok (w.prepared fixtures), w.returns fixtures now, after⟩ ∧
        Ran w fixtures now c after := by
  obtain ⟨after, buried, ended⟩ := start_writePreMigration_outcome w fixtures now reachable appends
  have none_refused : c.refused fixtures.dropped = [] := by simpa [Catalog.refused] using drops
  rw [Catalog.accepted_of_none_refused none_refused] at buried
  rw [if_pos none_refused] at ended
  have state := congrArg Outcome.state ended
  have continues := Catalog.outcome_continues
    (w.start (w.runOn .writePreMigration fixtures)) now c
  rw [state] at continues
  refine ⟨after, ended, prepares_of_buried (continues.unreachable.trans reachable) buried, ?_,
    continues, fun keyed => ?_⟩
  · rw [buried.rest]
    rfl
  · have kept := keyed.outcome (w.start (w.runOn .writePreMigration fixtures)) now
    rwa [state] at kept

theorem Ran.recorded {w : Workload} (ran : Ran w fixtures now before after) :
    after.drops = before.drops ++ w.dropRecords fixtures now := by
  obtain ⟨spaces, -, ensured⟩ := before.ensureNamespace_fst w.space
  have recorded := ran.tables.recorded
  rwa [ensured] at recorded

theorem Ran.known {w : Workload} (ran : Ran w fixtures now before after) :
    w.space ∈ after.spaces := by
  obtain ⟨spaces, known, ensured⟩ := before.ensureNamespace_fst w.space
  rw [ran.spaces, ensured]
  exact known

theorem Ran.alike {w : Workload} (once : Ran w fixtures now before middle)
    (twice : Ran w fixtures later middle after) (keyed : before.Keyed)
    (only_dropped : ∀ key, before.tombstones.get? key ≠ none →
      ∃ p ∈ fixtures.dropped, key = p.1.key w.space) :
    Catalog.Alike (w.returns fixtures now) (w.returns fixtures later) middle after := by
  -- The namespace is there from the first run on.
  have known : middle.ensureNamespace w.space = (middle, []) :=
    Catalog.ensureNamespace_of_known once.known
  obtain ⟨tables, spaces, continues, keyed'⟩ := twice
  rw [known] at tables spaces
  obtain ⟨known', -, ensured⟩ := before.ensureNamespace_fst w.space
  have only_dropped' : ∀ key, (before.ensureNamespace w.space).1.tombstones.get? key ≠ none →
      ∃ p ∈ fixtures.dropped, key = p.1.key w.space := by
    rw [ensured]
    exact only_dropped
  refine .of_remnants (once.keyed keyed) (keyed' (once.keyed keyed)) spaces.symm ?_ ?_
  · exact fun key => (once.tables.live_twice tables key).symm
  · exact fun key => (once.tables.remnants_twice tables only_dropped' continues.retention
      (returns_sub w fixtures later now) key).symm

/-- Done twice, a write before a migration leaves what it leaves when done once, if no table but
those it drops is softly dropped before. The record of drops tells that it was done twice. -/
theorem writePreMigration_repeatable (w : Workload) (fixtures : FixtureSet)
    (world : World SessionCall Catalog) (reachable : world.state.Reachable)
    (appends : ∀ t ∈ fixtures.all, t.name ∉ world.state.failingAppends)
    (drops : ∀ p ∈ fixtures.dropped, p.1.name ∉ world.state.failingDrops)
    (only_dropped : ∀ key, world.state.tombstones.get? key ≠ none →
      ∃ p ∈ fixtures.dropped, key = p.1.key w.space) :
    let program := w.start (w.runOn .writePreMigration fixtures)
    let once := program.run Catalog.answer world
    let twice := program.run Catalog.answer once.2
    twice.1 = once.1 ∧ Catalog.Alike once.2.now twice.2.now once.2.state twice.2.state ∧
      (world.state.unreachable = true →
        once.2.state.drops = world.state.drops ∧ twice.2.state.drops = world.state.drops) ∧
      (world.state.unreachable = false →
        once.2.state.drops = world.state.drops ++ w.dropRecords fixtures world.now ∧
        twice.2.state.drops = world.state.drops ++ w.dropRecords fixtures world.now ++
          w.dropRecords fixtures once.2.now) := by
  intro program once twice
  have first : Outcome.mk once.1 once.2.now once.2.state =
    program.outcome Catalog.answer world.now world.state := run_outcome ..
  have second : Outcome.mk twice.1 twice.2.now twice.2.state =
    program.outcome Catalog.answer once.2.now once.2.state := run_outcome ..
  cases online : world.state.unreachable with
  | true =>
    have nothing := start_outcome_of_offline w (w.runOn .writePreMigration fixtures) world.now online
    obtain ⟨failed, moment, state⟩ := Outcome.mk.inj (first.trans nothing)
    rw [moment, state] at second
    obtain ⟨failed', moment', state'⟩ := Outcome.mk.inj (second.trans nothing)
    rw [failed, moment, state, failed', moment', state']
    exact ⟨rfl, .refl .., fun _ => ⟨rfl, rfl⟩, nofun⟩
  | false =>
    obtain ⟨middle, ended, ran⟩ := exists_ran w fixtures world.now online appends drops
    obtain ⟨done, moment, state⟩ := Outcome.mk.inj (first.trans ended)
    rw [state] at second
    obtain ⟨after, ended', ran'⟩ := exists_ran (c := middle) w fixtures once.2.now
      (ran.continues.unreachable.trans online) (by rwa [ran.continues.failingAppends])
      (by rwa [ran.continues.failingDrops])
    obtain ⟨done', moment', state'⟩ := Outcome.mk.inj (second.trans ended')
    have alike := ran.alike ran' reachable.keyed only_dropped
    rw [← moment, ← moment'] at alike
    rw [done, done', state, state']
    refine ⟨rfl, alike, nofun, fun _ => ⟨ran.recorded, ?_⟩⟩
    rw [ran'.recorded, ran.recorded]

/-- A live table of the set with rows of its own, a softly dropped one and one of another namespace
are there before the first run. -/
theorem stale_tombstone_written_over_twice :
    let w : Workload := ⟨"http://localhost:8181/catalog", "my_namespace", .ofSeconds 2⟩
    let stale := (Catalog.empty (.ofSeconds 3)).after
      [(.zero, .call (.ensureNamespace "my_namespace")),
        (.zero, .call (.ensureNamespace "elsewhere")),
        (.zero, .call (.create "elsewhere" (.maintained "my_table_0"))),
        (.zero, .call (.create "my_namespace" (.maintained "my_table_0"))),
        (.zero, .call (.create "my_namespace" (.maintained "my_table_3"))),
        (.ofSeconds 1, .call (.drop "my_namespace" (.maintained "my_table_3") .soft))]
    let once := (w.start (w.runOn .writePreMigration .preMigration)).run Catalog.answer
      (.opening stale (.ofSeconds 2))
    let twice := (w.start (w.runOn .writePreMigration .preMigration)).run Catalog.answer once.2
    stale.Reachable ∧
    (∀ t ∈ FixtureSet.preMigration.all, t.name ∉ stale.failingAppends) ∧
    (∀ p ∈ FixtureSet.preMigration.dropped, p.1.name ∉ stale.failingDrops) ∧
    (∀ key, stale.tombstones.get? key ≠ none →
      ∃ p ∈ FixtureSet.preMigration.dropped, key = p.1.key "my_namespace") ∧
    twice.1 = once.1 ∧
    once.2.state.tombstonedTables once.2.now "my_namespace" = ["my_table_2"] ∧
    twice.2.state.tombstonedTables twice.2.now "my_namespace" = ["my_table_2"] ∧
    twice.2.state.drops = stale.drops ++ w.dropRecords .preMigration (.ofSeconds 2) ++
      w.dropRecords .preMigration once.2.now := by
  intro w stale once twice
  have reachable : stale.Reachable := ⟨_, by decide, rfl⟩
  have appends : ∀ t ∈ FixtureSet.preMigration.all, t.name ∉ stale.failingAppends := by
    subst stale
    decide +kernel
  have drops : ∀ p ∈ FixtureSet.preMigration.dropped, p.1.name ∉ stale.failingDrops := by
    subst stale
    decide +kernel
  have only_dropped : ∀ key, stale.tombstones.get? key ≠ none →
      ∃ p ∈ FixtureSet.preMigration.dropped, key = p.1.key "my_namespace" := by
    have keys : stale.tombstones.entries.map (·.1) = [⟨"my_namespace", "my_table_3"⟩] := by
      subst stale
      decide +kernel
    intro key buried
    obtain ⟨t, found⟩ := Option.ne_none_iff_exists'.mp buried
    have member : key ∈ stale.tombstones.entries.map (·.1) :=
      List.mem_map_of_mem (Assoc.mem_of_get? found)
    rw [keys] at member
    exact ⟨(.dropped "my_table_3" .purge, .purge), by decide, List.mem_singleton.mp member⟩
  have online : stale.unreachable = false := by
    subst stale
    decide +kernel
  have listed : once.2.state.tombstonedTables once.2.now "my_namespace" = ["my_table_2"] := by
    subst once stale w
    decide +kernel
  obtain ⟨same, alike, -, recorded⟩ := writePreMigration_repeatable w .preMigration
    (.opening stale (.ofSeconds 2)) reachable appends drops only_dropped
  have listed' : twice.2.state.tombstonedTables twice.2.now "my_namespace" = ["my_table_2"] := by
    rw [← alike.tombstonedTables, listed]
  refine ⟨reachable, appends, drops, only_dropped, same, listed, listed', ?_⟩
  subst twice once
  exact (recorded online).2

end Workload

end CatalogMigration
