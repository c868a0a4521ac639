import CatalogMigration.Config.Basic
import CatalogMigration.Session.Call
import CatalogMigration.Table.Scan
import CatalogMigration.Workload.Task

namespace CatalogMigration

structure Workload where
  catalogUrl : String
  space : String
  softDeleteWait : Span
deriving DecidableEq, Repr

def WorkloadConfig.workload (c : WorkloadConfig) : Workload :=
  ⟨c.catalogUrl.display, c.space, c.softDeleteWait⟩

namespace Workload

def origin : String := "migration_tests::workload"

def info (message : String) (fields : List (String × LogValue)) : Act :=
  .log ⟨.info, origin, message, fields⟩

def wroteTable (t : Fixture) (scan : TableScan) : Act :=
  info ("wrote table\n" ++ scan.display) [("table", .text t.name)]

def scannedTable (t : Fixture) (scan : TableScan) : Act :=
  info ("scanned\n" ++ scan.display) [("table", .text t.name)]

def tableIntact (t : Fixture) (scan : TableScan) : Act :=
  info "table intact"
    [("table", .text t.name), ("rows", .rendered (Numeral.decimalText scan.rows.length))]

def droppedTable (t : Fixture) (mode : DropMode) : Act :=
  info "dropped table" [("table", .text t.name), ("mode", .rendered mode.display)]

def failedDrop (t : Fixture) (mode : DropMode) (e : SessionError) : Act :=
  .log ⟨.warn, origin, "failed to drop table",
    [("table", .text t.name), ("mode", .rendered mode.display), ("error", .rendered e.message)]⟩

def waiting (span : Span) : Act :=
  info "waiting for soft-deleted tables to expire" [("wait", .rendered span.display)]

def writeTable {α : Type} (space : String) (t : Fixture)
    (next : SessionProgram (Except Failure α)) : SessionProgram (Except Failure α) :=
  .attempt (.create space t) (.write t.name) fun _ =>
  .attempt (.append space t t.expectedRows) (.write t.name) fun _ =>
  .attempt (.scan space t) (.write t.name) fun scan =>
  .act (wroteTable t scan) <|
  match t.verify scan with
  | .error failure => .done (.error (.write t.name (.unexpectedData failure.message)))
  | .ok () => next

/-- Works on tables one by one and goes on with the names of those that are done. -/
def eachTable {α : Type}
    (work : Fixture → SessionProgram (Except Failure α) → SessionProgram (Except Failure α)) :
    List Fixture → (List String → SessionProgram (Except Failure α)) →
      SessionProgram (Except Failure α)
  | [], next => next []
  | t :: ts, next => work t (eachTable work ts fun names => next (t.name :: names))

theorem eachTable_append {α : Type}
    {work : Fixture → SessionProgram (Except Failure α) → SessionProgram (Except Failure α)}
    (ts us : List Fixture) (next : List String → SessionProgram (Except Failure α)) :
    eachTable work (ts ++ us) next =
      eachTable work ts fun names => eachTable work us fun others => next (names ++ others) := by
  induction ts generalizing next with
  | nil => rfl
  | cons t ts ih => rw [List.cons_append, eachTable, ih, eachTable]; rfl

def writeTables {α : Type} (space : String) :
    List Fixture → (List String → SessionProgram (Except Failure α)) →
      SessionProgram (Except Failure α) :=
  eachTable (writeTable space)

/-- Drops every table with its mode and tells which were dropped and which were not. -/
def dropTables (space : String) :
    List (Fixture × DropMode) → SessionProgram (List String × List DropFailure)
  | [] => .done ([], [])
  | (t, mode) :: rest => .call (.drop space t mode) fun
    | .ok () => .act (droppedTable t mode) do
      let (dropped, failures) ← dropTables space rest
      return (t.name :: dropped, failures)
    | .error e => .act (failedDrop t mode e) do
      let (dropped, failures) ← dropTables space rest
      return (dropped, ⟨t.name, mode, e⟩ :: failures)

def writePreMigration (w : Workload) (fixtures : FixtureSet) :
    SessionProgram (Except Failure Report) :=
  writeTables w.space fixtures.all fun written =>
  let report := { Report.start .writePreMigration with written }
  if fixtures.dropped = [] then .done (.ok report)
  else do
    let (dropped, failures) ← dropTables w.space fixtures.dropped
    .perform (waiting w.softDeleteWait)
    .perform (.wait w.softDeleteWait)
    return if failures = [] then .ok { report with dropped, waited := w.softDeleteWait }
      else .error (.drop failures)

def writePostMigration (w : Workload) (fixtures : FixtureSet) :
    SessionProgram (Except Failure Report) :=
  writeTables w.space fixtures.maintained fun written =>
  .done (.ok { Report.start .writePostMigration with written })

def readFailure (e : SessionError) : ReadFailure := if e.isNotFound then .notFound else .unreadable e

def readTable {α : Type} (space : String) (t : Fixture)
    (next : SessionProgram (Except Failure α)) : SessionProgram (Except Failure α) :=
  .attempt (.scan space t) (fun e => .read t.name (readFailure e)) fun scan =>
  .act (scannedTable t scan) <|
  match t.verify scan with
  | .error failure => .done (.error (.read t.name failure))
  | .ok () => .act (tableIntact t scan) next

def readTables {α : Type} (space : String) :
    List Fixture → (List String → SessionProgram (Except Failure α)) →
      SessionProgram (Except Failure α) :=
  eachTable (readTable space)

def read (w : Workload) (fixtures : FixtureSet) : SessionProgram (Except Failure Report) :=
  readTables w.space fixtures.maintained fun verified =>
  .done (.ok { Report.start .read with verified })

def task (w : Workload) : Task → FixtureSet → SessionProgram (Except Failure Report)
  | .writePreMigration => w.writePreMigration
  | .writePostMigration => w.writePostMigration
  | .read => w.read

def scope (w : Workload) (task : Task) : Scope :=
  ⟨"run_with_fixtures", [("task", task.name), ("catalog_url", w.catalogUrl)]⟩

def finished : Except Failure Report → SessionProgram Unit
  | .ok report => .perform (info "task finished" [("report", .rendered report.display)])
  | .error _ => .done ()

/-- A task on given tables, inside a scope of its own. -/
def runOn (w : Workload) (task : Task) (fixtures : FixtureSet) :
    SessionProgram (Except Failure Report) := do
  .perform (.enter (w.scope task))
  .perform (info "starting task" [])
  let result ← w.task task fixtures
  finished result
  .perform .leave
  return result

def start (w : Workload) {α : Type} (next : SessionProgram (Except Failure α)) :
    SessionProgram (Except Failure α) :=
  .attempt (.ensureNamespace w.space) (.connection w.catalogUrl) fun _ =>
  .act (.log ⟨.debug, origin, "namespace ready", [("namespace", .rendered w.space)]⟩) next

/-- A task on tables that still have to make a set, from the start. -/
def runLists (w : Workload) (task : Task) (maintained dropped : List Fixture) :
    SessionProgram (Except Failure Report) :=
  w.start <|
  match FixtureSet.ofLists maintained dropped with
  | .error fault => .done (.error (.invalidFixtures fault.message))
  | .ok fixtures => w.runOn task fixtures

def run (w : Workload) (task : Task) : SessionProgram (Except Failure Report) :=
  w.start (w.runOn task (.ofTask task))

end Workload

end CatalogMigration
