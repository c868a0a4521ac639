import CatalogMigration.Proofs.Catalog.Answer
import CatalogMigration.Proofs.Table.Verdict
import CatalogMigration.Proofs.Workload.Course

namespace CatalogMigration

open Program

namespace Catalog

variable {c : Catalog} {space : String} {t : Fixture} {now : Span}

/-- A table that is live as it was written, but for the order of its rows. -/
def Intact (c : Catalog) (space : String) (t : Fixture) : Prop :=
  ∃ stored, c.live.get? (t.key space) = some stored ∧ stored.schema = t.schema ∧
    stored.rows.Perm fixtureRows

/-- Why a table is not intact. A lost table has no schema, and rows count under the right schema
alone. -/
inductive Damage (c : Catalog) (space : String) (t : Fixture) : ReadFailure → Prop
  | lost : c.live.get? (t.key space) = none → Damage c space t .notFound
  | altered {stored : StoredTable} : c.live.get? (t.key space) = some stored →
    stored.schema ≠ t.schema → Damage c space t (.schemaMismatch t.schema stored.schema)
  | refilled {stored : StoredTable} : c.live.get? (t.key space) = some stored →
    stored.schema = t.schema → ¬ stored.rows.Perm fixtureRows →
    Damage c space t (.rowMismatch fixtureRows (sortedRows stored.rows))

theorem intact_or_damage (c : Catalog) (space : String) (t : Fixture) :
    c.Intact space t ∨ ∃ failure, c.Damage space t failure := by
  cases found : c.live.get? (t.key space) with
  | none => exact .inr ⟨_, .lost found⟩
  | some stored =>
    by_cases schema : stored.schema = t.schema
    · by_cases rows : stored.rows.Perm fixtureRows
      · exact .inl ⟨stored, found, schema, rows⟩
      · exact .inr ⟨_, .refilled found schema rows⟩
    · exact .inr ⟨_, .altered found schema⟩

theorem Damage.not_intact {failure : ReadFailure} (damage : c.Damage space t failure) :
    ¬ c.Intact space t := by
  rintro ⟨stored, live, schema, rows⟩
  cases damage with
  | lost lost => simp [lost] at live
  | altered found other =>
    cases found.symm.trans live
    exact other schema
  | refilled found _ other =>
    cases found.symm.trans live
    exact other rows

theorem Damage.of_live {d : Catalog} {failure : ReadFailure} (damage : c.Damage space t failure)
    (same : d.live = c.live) : d.Damage space t failure := by
  cases damage with
  | lost lost => exact .lost (by rwa [same])
  | altered found other => exact .altered (by rwa [same]) other
  | refilled found schema other => exact .refilled (by rwa [same]) schema other

theorem exists_first_damage {tables : List Fixture} (broken : ¬ ∀ t ∈ tables, c.Intact space t) :
    ∃ sound t rest failure, tables = sound ++ t :: rest ∧ (∀ u ∈ sound, c.Intact space u) ∧
      c.Damage space t failure := by
  induction tables with
  | nil => simp at broken
  | cons u ts ih =>
    rcases intact_or_damage c space u with intact | ⟨failure, damage⟩
    · have later : ¬ ∀ t ∈ ts, c.Intact space t := by simpa [intact] using broken
      obtain ⟨sound, t, rest, failure, rfl, sounds, damage⟩ := ih later
      exact ⟨u :: sound, t, rest, failure, rfl, by simpa [intact] using sounds, damage⟩
    · exact ⟨[], u, ts, failure, rfl, by simp, damage⟩

end Catalog

namespace Workload

variable {c : Catalog} {space : String} {t : Fixture} {now : Span} {w : Workload} {α : Type}
  {next : SessionProgram (Except Failure α)}

theorem start_outcome (w : Workload) (next : SessionProgram (Except Failure α)) (now : Span)
    (reachable : c.unreachable = false) :
    (w.start next).outcome Catalog.answer now c =
      next.outcome Catalog.answer now (c.ensureNamespace w.space).1 :=
  ((GoesOn.attempt_ok (Catalog.answer_ensureNamespace reachable)).trans (.act _)).outcome

theorem reachable_of_start {r : α}
    (ok : ((w.start next).outcome Catalog.answer now c).result = .ok r) :
    c.unreachable = false := by
  cases offline : c.unreachable with
  | false => rfl
  | true =>
    have refused : Catalog.answer (.ensureNamespace w.space) now c =
        (.error Catalog.offline, c, []) := by
      simp [Catalog.answer, offline]
    rw [start, (GoesOn.attempt_error refused).outcome] at ok
    cases ok

theorem readTable_outcome_of_found (reachable : c.unreachable = false) {stored : StoredTable}
    (found : c.live.get? (t.key space) = some stored) :
    (readTable space t next).outcome Catalog.answer now c =
      match t.verify ⟨stored.schema, stored.rows⟩ with
      | .error failure => ⟨.error (.read t.name failure), now, c⟩
      | .ok () => next.outcome Catalog.answer now c := by
  have scanned : Catalog.answer (.scan space t) now c =
      (.ok ⟨stored.schema, stored.rows⟩, c, []) := by
    rw [Catalog.answer_scan reachable, Catalog.scan_of_found found]
  have went : GoesOn Catalog.answer (readTable space t next) now c _ _ now c :=
    (GoesOn.attempt_ok scanned).trans (.act _)
  rw [went.outcome]
  cases t.verify ⟨stored.schema, stored.rows⟩ <;> rfl

theorem readTable_outcome_of_intact (reachable : c.unreachable = false)
    (intact : c.Intact space t) :
    (readTable space t next).outcome Catalog.answer now c = next.outcome Catalog.answer now c := by
  obtain ⟨stored, found, schema, rows⟩ := intact
  have same : t.verify ⟨stored.schema, stored.rows⟩ = .ok () := Fixture.verify_of_perm schema rows
  rw [readTable_outcome_of_found reachable found, same]

theorem readTable_outcome_of_damage (reachable : c.unreachable = false) {failure : ReadFailure}
    (damage : c.Damage space t failure) :
    (readTable space t next).outcome Catalog.answer now c =
      ⟨.error (.read t.name failure), now, c⟩ := by
  cases damage with
  | lost lost =>
    have missed : Catalog.answer (.scan space t) now c =
        (.error (.notFound (t.key space).display), c, []) := by
      rw [Catalog.answer_scan reachable, Catalog.scan_of_lost lost]
    exact (GoesOn.attempt_error missed).outcome
  | altered found other =>
    rw [readTable_outcome_of_found reachable found, Fixture.verify_of_other_schema other]
  | refilled found schema other =>
    rw [readTable_outcome_of_found reachable found, Fixture.verify_of_other_rows schema other]

theorem readTables_outcome (reachable : c.unreachable = false) {tables : List Fixture}
    {next : List String → SessionProgram (Except Failure α)}
    (intact : ∀ t ∈ tables, c.Intact space t) :
    (readTables space tables next).outcome Catalog.answer now c =
      (next (tables.map (·.name))).outcome Catalog.answer now c := by
  induction tables generalizing next with
  | nil => rfl
  | cons t ts ih =>
    rw [readTables, eachTable, readTable_outcome_of_intact reachable (intact t (by simp))]
    exact ih fun u member => intact u (by simp [member])

theorem read_outcome_of_intact (now : Span) (reachable : c.unreachable = false)
    {fixtures : FixtureSet} (intact : ∀ t ∈ fixtures.maintained, c.Intact w.space t) :
    (w.start (w.runOn .read fixtures)).outcome Catalog.answer now c =
      ⟨.ok ⟨.read, [], [], fixtures.maintained.map (·.name), .zero⟩, now,
        (c.ensureNamespace w.space).1⟩ := by
  obtain ⟨spaces, -, ensured⟩ := c.ensureNamespace_fst w.space
  rw [start_outcome w _ now reachable, runOn_outcome, ensured]
  exact readTables_outcome (c := { c with spaces }) reachable intact

theorem read_outcome_of_damage (now : Span) (reachable : c.unreachable = false)
    {fixtures : FixtureSet} {sound rest : List Fixture} {failure : ReadFailure}
    (order : fixtures.maintained = sound ++ t :: rest) (sounds : ∀ u ∈ sound, c.Intact w.space u)
    (damage : c.Damage w.space t failure) :
    (w.start (w.runOn .read fixtures)).outcome Catalog.answer now c =
      ⟨.error (.read t.name failure), now, (c.ensureNamespace w.space).1⟩ := by
  obtain ⟨spaces, -, ensured⟩ := c.ensureNamespace_fst w.space
  rw [start_outcome w _ now reachable, runOn_outcome, ensured, task, read, order, readTables,
    eachTable_append]
  refine (readTables_outcome (c := { c with spaces }) reachable sounds).trans ?_
  exact readTable_outcome_of_damage (c := { c with spaces }) reachable (damage.of_live rfl)

/-- Whatever is done to the catalog after a write, a read succeeds just when every maintained table
is intact then, and else names the first that is not. It changes no table. -/
theorem read_ok_iff_intact (w reader : Workload) (same_space : reader.space = w.space)
    (fixtures : FixtureSet) (world : World SessionCall Catalog) {report : Report}
    (wrote : ((w.start (w.runOn .writePreMigration fixtures)).run Catalog.answer world).1 =
      .ok report)
    (operations : List (Span × CatalogOperation))
    (online : ∀ o ∈ operations, o.2 ≠ .setUnreachable true) (later : Span) :
    let write := (w.start (w.runOn .writePreMigration fixtures)).run Catalog.answer world
    let after := write.2.state.after operations
    let read := (reader.start (reader.runOn .read fixtures)).run Catalog.answer
      (.opening after later)
    ((∃ report, read.1 = .ok report) ↔ ∀ t ∈ fixtures.maintained, after.Intact w.space t) ∧
    ((¬ ∀ t ∈ fixtures.maintained, after.Intact w.space t) →
      ∃ sound t rest failure, fixtures.maintained = sound ++ t :: rest ∧
        (∀ u ∈ sound, after.Intact w.space u) ∧ ¬ after.Intact w.space t ∧
        after.Damage w.space t failure ∧ read.1 = .error (.read t.name failure)) ∧
    read.2.state.live = after.live ∧ read.2.state.tombstones = after.tombstones ∧
      read.2.state.drops = after.drops := by
  intro write after read
  rw [run_result] at wrote
  -- The write got its answers, no call of it cuts the catalog off, and no later operation does.
  have reachable : after.unreachable = false := by
    refine Catalog.after_unreachable operations online ?_
    show ((w.start _).run Catalog.answer world).2.state.unreachable = false
    rw [run_state]
    have before := reachable_of_start wrote
    refine outcome_invariant Catalog.answer (·.unreachable = false) ?_ _ _ _ before
    exact fun call now c kept => (Catalog.answer_unreachable call now c).trans kept
  have result : read.1 = _ := run_result ..
  have state : read.2.state = _ := run_state ..
  obtain ⟨spaces, -, ensured⟩ := after.ensureNamespace_fst reader.space
  by_cases intact : ∀ t ∈ fixtures.maintained, after.Intact w.space t
  · rw [← same_space] at intact ⊢
    have ended := read_outcome_of_intact later reachable intact
    rw [World.opening, ended, ensured] at result state
    refine ⟨⟨fun _ => intact, fun _ => ⟨_, result⟩⟩, fun broken => absurd intact broken, ?_⟩
    simp [state]
  · obtain ⟨sound, t, rest, failure, order, sounds, damage⟩ := Catalog.exists_first_damage intact
    rw [← same_space] at intact sounds damage ⊢
    have ended := read_outcome_of_damage later reachable order sounds damage
    rw [World.opening, ended, ensured] at result state
    refine ⟨⟨?_, fun all => absurd all intact⟩,
      fun _ => ⟨sound, t, rest, failure, order, sounds, damage.not_intact, damage, result⟩, ?_⟩
    · rintro ⟨report, ok⟩
      cases result.symm.trans ok
    · simp [state]

/-- The rows of the first table change places only, the second table is lost. -/
theorem second_table_lost :
    let w : Workload := ⟨"http://localhost:8181/catalog", "my_namespace", .ofSeconds 2⟩
    let operations : List (Span × CatalogOperation) :=
      [(.ofSeconds 3, .replaceRows ⟨"my_namespace", "my_table_0"⟩ fixtureRows.reverse),
        (.ofSeconds 3, .call (.drop "my_namespace" (.maintained "my_table_1") .purge)),
        (.ofSeconds 4, .undrop ⟨"my_namespace", "my_table_2"⟩)]
    let wrote := (w.start (w.runOn .writePreMigration .preMigration)).run Catalog.answer
      (.opening (.empty (.ofSeconds 1)) .zero)
    let read := (w.start (w.runOn .read .preMigration)).run Catalog.answer
      (.opening (wrote.2.state.after operations) (.ofSeconds 5))
    wrote.1 = .ok ⟨.writePreMigration, ["my_table_0", "my_table_1", "my_table_2", "my_table_3"],
      ["my_table_2", "my_table_3"], [], .ofSeconds 2⟩ ∧
    (∀ o ∈ operations, o.2 ≠ .setUnreachable true) ∧
    read.1 = .error (.read "my_table_1" .notFound) ∧
    ¬ ∀ t ∈ FixtureSet.preMigration.maintained,
      (wrote.2.state.after operations).Intact "my_namespace" t := by
  intro w operations wrote read
  have written : wrote.1 = .ok ⟨.writePreMigration,
      ["my_table_0", "my_table_1", "my_table_2", "my_table_3"], ["my_table_2", "my_table_3"], [],
      .ofSeconds 2⟩ := by
    subst wrote w
    decide +kernel
  have online : ∀ o ∈ operations, o.2 ≠ .setUnreachable true := by
    subst operations
    decide
  have failed : read.1 = .error (.read "my_table_1" .notFound) := by
    subst read wrote operations w
    decide +kernel
  refine ⟨written, online, failed, fun intact => ?_⟩
  obtain ⟨report, ok⟩ := (read_ok_iff_intact w w rfl .preMigration _ written operations online
    (.ofSeconds 5)).1.mpr intact
  cases failed.symm.trans ok

end Workload

end CatalogMigration
