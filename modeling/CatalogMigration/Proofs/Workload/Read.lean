import CatalogMigration.Proofs.Catalog.Effect
import CatalogMigration.Proofs.Table.Verdict
import CatalogMigration.Proofs.Workload.Course

namespace CatalogMigration

open Program

namespace Fixture

/-- An answer that shows a table as it was written, but for the order of its rows. -/
def ShownBy (t : Fixture) (r : Except SessionError TableScan) : Prop :=
  ∃ scan, r = .ok scan ∧ scan.schema = t.schema ∧ scan.rows.Perm fixtureRows

/-- What an answer says against a table. Rows count under the right schema alone. -/
inductive Finding (t : Fixture) : Except SessionError TableScan → ReadFailure → Prop
  | missing (what : String) : t.Finding (.error (.notFound what)) .notFound
  | unreadable {e : SessionError} (present : ∀ what, e ≠ .notFound what) :
    t.Finding (.error e) (.unreadable e)
  | altered {scan : TableScan} (other : scan.schema ≠ t.schema) :
    t.Finding (.ok scan) (.schemaMismatch t.schema scan.schema)
  | refilled {scan : TableScan} {actual : List Row} (same : scan.schema = t.schema)
    (other : ¬ scan.rows.Perm fixtureRows) (reordered : actual.Perm scan.rows)
    (ordered : actual.Pairwise Row.NotAfter) :
    t.Finding (.ok scan) (.rowMismatch fixtureRows actual)

variable {t : Fixture} {r : Except SessionError TableScan} {failure : ReadFailure}

theorem Finding.not_shown (finding : t.Finding r failure) : ¬ t.ShownBy r := by
  rintro ⟨scan, rfl, schema, rows⟩
  cases finding with
  | altered other => exact other schema
  | refilled _ other => exact other rows

theorem finding_of_error (t : Fixture) (e : SessionError) :
    t.Finding (.error e) (Workload.readFailure e) := by
  cases e with
  | notFound what => exact .missing what
  | unreachable | timeout | catalog | unexpectedData => exact .unreadable nofun

theorem verdict_cases (t : Fixture) (scan : TableScan) :
    t.verify scan = .ok () ∧ t.ShownBy (.ok scan) ∨
      ∃ failure, t.verify scan = .error failure ∧ t.Finding (.ok scan) failure := by
  by_cases schema : scan.schema = t.schema
  · by_cases rows : scan.rows.Perm fixtureRows
    · exact .inl ⟨verify_of_perm schema rows, scan, rfl, schema, rows⟩
    · exact .inr ⟨_, verify_of_other_rows schema rows,
        .refilled schema rows (sortedRows_perm scan.rows) (sortedRows_pairwise scan.rows)⟩
  · exact .inr ⟨_, verify_of_other_schema schema, .altered schema⟩

end Fixture

namespace Workload

abbrev Scanned := Fixture × Except SessionError TableScan

def Scanned.asked (space : String) (p : Scanned) : (c : SessionCall) × c.Answer :=
  ⟨.scan space p.1, p.2⟩

inductive Scans : List Fixture → List Scanned → Option (Fixture × ReadFailure) → Prop
  | nil : Scans [] [] none
  | cut {t : Fixture} {r : Except SessionError TableScan} {failure : ReadFailure}
    (ts : List Fixture) (finding : t.Finding r failure) :
    Scans (t :: ts) [(t, r)] (some (t, failure))
  | cons {t : Fixture} {r : Except SessionError TableScan} {ts : List Fixture}
    {scans : List Scanned} {stop : Option (Fixture × ReadFailure)} (shown : t.ShownBy r)
    (rest : Scans ts scans stop) : Scans (t :: ts) ((t, r) :: scans) stop

variable {tables : List Fixture} {scans : List Scanned} {stop : Option (Fixture × ReadFailure)}

theorem Scans.in_order (scanned : Scans tables scans stop) : scans.map (·.1) <+: tables := by
  induction scanned with
  | nil => exact List.prefix_rfl
  | cut ts => simp
  | cons _ _ ih => simpa using ih

theorem Scans.intact (scanned : Scans tables scans none) :
    scans.map (·.1) = tables ∧ ∀ p ∈ scans, p.1.ShownBy p.2 := by
  generalize none_stops : (none : Option (Fixture × ReadFailure)) = stop at scanned
  induction scanned with
  | nil => simp
  | cut => cases none_stops
  | cons shown _ ih =>
    obtain ⟨order, others⟩ := ih none_stops
    exact ⟨by simp [order], List.forall_mem_cons.mpr ⟨shown, others⟩⟩

theorem Scans.stopped {t : Fixture} {failure : ReadFailure}
    (scanned : Scans tables scans (some (t, failure))) :
    ∃ before r, scans = before ++ [(t, r)] ∧ (∀ p ∈ before, p.1.ShownBy p.2) ∧
      t.Finding r failure := by
  generalize stops : some (t, failure) = stop at scanned
  induction scanned with
  | nil => cases stops
  | cut ts finding =>
    cases stops
    exact ⟨[], _, rfl, by simp, finding⟩
  | cons shown _ ih =>
    obtain ⟨before, r, rfl, others, finding⟩ := ih stops
    exact ⟨_ :: before, r, rfl, List.forall_mem_cons.mpr ⟨shown, others⟩, finding⟩

def afterScans {α : Type} (next : SessionProgram (Except Failure α)) :
    Option (Fixture × ReadFailure) → SessionProgram (Except Failure α)
  | some (t, failure) => .done (.error (.read t.name failure))
  | none => next

section Course

variable {σ α : Type} (host : SessionHost σ) (space : String) (now : Span)

theorem readTable_goesOn (next : SessionProgram (Except Failure α)) (t : Fixture) (s : σ) :
    ∃ r steps s', answers steps = [Scanned.asked space (t, r)] ∧
      (t.ShownBy r ∧ GoesOn host (readTable space t next) now s steps next now s' ∨
        ∃ failure, t.Finding r failure ∧ GoesOn host (readTable space t next) now s steps
          (.done (.error (.read t.name failure))) now s') := by
  rcases scanned : host (.scan space t) now s with ⟨r, s', events⟩
  cases r with
  | error e =>
    exact ⟨.error e, _, s', rfl, .inr ⟨_, t.finding_of_error e, .attempt_error scanned⟩⟩
  | ok scan =>
    have looked : GoesOn host (readTable space t next) now s _ _ now s' :=
      (GoesOn.attempt_ok scanned).trans (.act (scannedTable t scan))
    rcases t.verdict_cases scan with ⟨verdict, shown⟩ | ⟨failure, verdict, finding⟩
    · simp only [verdict] at looked
      exact ⟨.ok scan, _, s', rfl, .inl ⟨shown, looked.trans (.act _)⟩⟩
    · simp only [verdict] at looked
      exact ⟨.ok scan, _, s', rfl, .inr ⟨failure, finding, looked⟩⟩

theorem readTables_goesOn (next : List String → SessionProgram (Except Failure α))
    (tables : List Fixture) (s : σ) :
    ∃ scans stop steps s', Scans tables scans stop ∧
      answers steps = scans.map (Scanned.asked space) ∧
      GoesOn host (readTables space tables next) now s steps
        (afterScans (next (tables.map (·.name))) stop) now s' := by
  induction tables generalizing next s with
  | nil => exact ⟨[], none, [], s, .nil, rfl, .refl⟩
  | cons t ts ih =>
    let others_next (names : List String) := next (t.name :: names)
    obtain ⟨r, steps, s₁, answered, course⟩ :=
      readTable_goesOn host space now (readTables space ts others_next) t s
    rcases course with ⟨shown, goes⟩ | ⟨failure, finding, goes⟩
    · obtain ⟨scans, stop, rest, s₂, scanned, others, goes'⟩ := ih others_next s₁
      refine ⟨(t, r) :: scans, stop, steps ++ rest, s₂, .cons shown scanned, ?_, goes.trans goes'⟩
      rw [answers_append, answered, others, List.map_cons, List.singleton_append]
    · exact ⟨[(t, r)], some (t, failure), steps, s₁, .cut ts finding, answered, goes⟩

end Course

/-- What a read tells by the answers to its scans. It is about maintained tables alone, each of
them once and in their order, and ends with the first answer that does not show its table. -/
structure EndsAtFinding (fixtures : FixtureSet) (scans : List Scanned)
    (result : Except Failure Report) : Prop where
  in_order : scans.map (·.1) <+: fixtures.maintained
  once : (scans.map (·.1.name)).Nodup
  kept_only : ∀ p ∈ scans, ∀ q ∈ fixtures.dropped, p.1.name ≠ q.1.name
  ok_iff : result.isOk = true ↔ ∀ p ∈ scans, p.1.ShownBy p.2
  complete : result.isOk = true → scans.map (·.1) = fixtures.maintained ∧
    result = .ok ⟨.read, [], [], fixtures.maintained.map (·.name), .zero⟩
  stopped : result.isOk = false → ∃ before p failure, scans = before ++ [p] ∧
    (∀ q ∈ before, q.1.ShownBy q.2) ∧ p.1.Finding p.2 failure ∧
    result = .error (.read p.1.name failure)

variable {fixtures : FixtureSet}

theorem Scans.once (scanned : Scans fixtures.maintained scans stop) :
    (scans.map (·.1.name)).Nodup := by
  have distinct : (fixtures.maintained.map (·.name)).Nodup := by
    have names := fixtures.distinct
    rw [List.map_append] at names
    exact names.of_append_left
  have named : scans.map (·.1.name) = (scans.map (·.1)).map (·.name) := by simp
  rw [named]
  exact distinct.sublist (scanned.in_order.sublist.map _)

theorem Scans.kept_only (scanned : Scans fixtures.maintained scans stop) :
    ∀ p ∈ scans, ∀ q ∈ fixtures.dropped, p.1.name ≠ q.1.name := by
  intro p member q among
  have kept : p.1 ∈ fixtures.maintained :=
    scanned.in_order.subset (List.mem_map.mpr ⟨p, member, rfl⟩)
  exact FixtureSet.maintained_name_ne_dropped kept among

theorem EndsAtFinding.of_intact (scanned : Scans fixtures.maintained scans none) :
    EndsAtFinding fixtures scans
      (.ok ⟨.read, [], [], fixtures.maintained.map (·.name), .zero⟩) := by
  obtain ⟨order, shown⟩ := scanned.intact
  exact ⟨scanned.in_order, scanned.once, scanned.kept_only, ⟨fun _ => shown, fun _ => rfl⟩,
    fun _ => ⟨order, rfl⟩, nofun⟩

theorem EndsAtFinding.of_stopped {t : Fixture} {failure : ReadFailure}
    (scanned : Scans fixtures.maintained scans (some (t, failure))) :
    EndsAtFinding fixtures scans (.error (.read t.name failure)) := by
  obtain ⟨before, r, ends, passed, finding⟩ := scanned.stopped
  refine ⟨scanned.in_order, scanned.once, scanned.kept_only, ⟨nofun, fun shown => ?_⟩, nofun,
    fun _ => ⟨before, (t, r), failure, ends, passed, finding, rfl⟩⟩
  exact absurd (shown (t, r) (by simp [ends])) finding.not_shown

/-- Whatever a session answers, a read scans the maintained tables in their order up to the first
answer that does not show its table as it was written. It succeeds just when there is none, and else
names that table and what the answer says against it. -/
theorem read_ends_at_first_finding (w : Workload) (fixtures : FixtureSet) {σ : Type}
    (host : SessionHost σ) (world : World SessionCall σ) :
    let run := (w.runOn .read fixtures).run host world
    let steps := (w.runOn .read fixtures).steps host world.now world.state
    ∃ scans : List Scanned,
      answers steps = scans.map (Scanned.asked w.space) ∧
      run.2.calls = world.calls ++ scans.map (fun p => .scan w.space p.1) ∧
      EndsAtFinding fixtures scans run.1 := by
  intro run steps
  let report (verified : List String) : Report := ⟨.read, [], [], verified, .zero⟩
  obtain ⟨scans, stop, phase, s', scanned, answered, goes⟩ :=
    readTables_goesOn host w.space world.now (fun verified => .done (.ok (report verified)))
      fixtures.maintained world.state
  have ended {result : Except Failure Report}
      (goes : GoesOn host (w.task .read fixtures) world.now world.state phase (.done result)
        world.now s') :
      (answers steps = scans.map (Scanned.asked w.space) ∧
        run.2.calls = world.calls ++ scans.map (fun p => .scan w.space p.1)) ∧ run.1 = result := by
    obtain ⟨whole, ended⟩ := runOn_of_goesOn goes
    have all : answers steps = scans.map (Scanned.asked w.space) := by simp [steps, whole, answered]
    refine ⟨⟨all, ?_⟩, ended⟩
    rw [run_calls, calls_eq_answers]
    show world.calls ++ (answers steps).map (·.1) = _
    simp [all, Scanned.asked]
  cases stop with
  | some stopped =>
    obtain ⟨⟨all, calls⟩, result⟩ := ended goes
    exact ⟨scans, all, calls, result ▸ EndsAtFinding.of_stopped scanned⟩
  | none =>
    obtain ⟨⟨all, calls⟩, result⟩ := ended goes
    exact ⟨scans, all, calls, result ▸ EndsAtFinding.of_intact scanned⟩

example :
    let w : Workload := ⟨"http://localhost:8181/catalog", "my_namespace", .zero⟩
    let script : Script := [.show ⟨.fixture, fixtureRows.reverse⟩, .fail (.notFound "a table")]
    ((w.runOn .read .preMigration).run Script.answer (.opening script .zero)).1 =
      .error (.read "my_table_1" .notFound) := rfl

end Workload

end CatalogMigration
