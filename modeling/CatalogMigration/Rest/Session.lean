import CatalogMigration.Engine.Basic
import CatalogMigration.Session.Call
import CatalogMigration.Workload.Run

namespace CatalogMigration

namespace ClientError

def sessionError (e : ClientError) : SessionError :=
  match e with
  | .tableNotFound table => .notFound table
  | e => if e.isOutage then .unreachable e.message else .catalog e.message

end ClientError

structure RestSession where
  client : Client
  engine : Engine
  operationTimeout : Option Span
deriving DecidableEq, Repr

namespace RestSession

inductive Interruption
  | client (e : ClientError)
  | engine (f : EngineFault)
  | session (e : SessionError)
deriving DecidableEq, Repr

namespace Interruption

/-- Whether a call waits for a response in vain until its limit. The client gives up after a
time of its own, the engine never does. -/
def outlasts (patience limit : Span) : Interruption → Bool
  | .client (.http (.unanswered _)) => limit.nanos ≤ patience.nanos
  | .engine .unanswered => true
  | _ => false

def plainError : Interruption → SessionError
  | .client e => e.sessionError
  | .engine f => f.sessionError
  | .session e => e

def error (operation : String) (patience : Span) (limit : Option Span) (i : Interruption) :
    SessionError :=
  match limit with
  | some limit => if i.outlasts patience limit then .timeout operation limit else i.plainError
  | none => i.plainError

end Interruption

/-- A stretch of a call, with the engine as it goes on. -/
abbrev Step := ExceptT Interruption (StateT Engine Exchange)

namespace Step

def ofClient {α : Type} (p : Exchange (Except ClientError α)) : Step α := fun engine =>
  p.bind fun
    | .error e => .done (.error (.client e), engine)
    | .ok a => .done (.ok a, engine)

def ofEngine {α : Type} (op : EngineLink → Exchange (Except EngineFault α)) : Step α :=
  fun engine => (engine.perform op).bind fun
    | (.error f, engine) => .done (.error (.engine f), engine)
    | (.ok a, engine) => .done (.ok a, engine)

def ofResult {α : Type} (r : Except SessionError α) : Step α := fun engine =>
  .done (r.mapError .session, engine)

def log (message : String) : Step Unit := fun engine =>
  .act (.log ⟨.debug, "migration_tests::session::rest", message, []⟩) (.done (.ok (), engine))

end Step

def levels (space : String) : List String :=
  (Text.splitOn '.' space.toList).map String.ofList

def ensureNamespace (space : String) : Step Unit := do
  unless ← Step.ofEngine (·.spaceExists (levels space)) do
    Step.ofEngine (·.createSpace (levels space))
    Step.log "created namespace"

def schemaError : FieldSchema.Fault → SessionError
  | .noType column type =>
    .unexpectedData ("cannot create column " ++ column ++ " of type " ++ type)
  | .repeatedName name later earlier => (EngineFault.schema name later earlier).sessionError

def storedSchema (s : TableSchema) : Except SessionError FieldSchema :=
  (FieldSchema.ofSchema s).mapError schemaError

/-- Purges a table of the name before it creates one. -/
def create (c : Client) (space : String) (t : Fixture) : Step Unit := do
  if ← Step.ofClient (c.tableExists space t.name) then
    Step.log "purging existing table"
    Step.ofClient (c.dropTable space t.name true)
  let schema ← Step.ofResult (storedSchema t.schema)
  Step.ofEngine (·.createTable (levels space) t.name schema)

def load (c : Client) (space : String) (t : Fixture) : Step ServedTable := do
  if ← Step.ofClient (c.tableExists space t.name) then
    Step.ofEngine (·.loadTable (levels space) t.name)
  else
    Step.ofResult (.error (.notFound (space ++ "." ++ t.name)))

def layoutError : FieldSchema.LayoutFault → SessionError
  | .decimal fault => (EngineFault.decimal fault).sessionError
  | fault => .unexpectedData fault.message

def layout (s : FieldSchema) (rows : List Row) : Except SessionError Batch :=
  (s.toBatch rows).mapError layoutError

def append (c : Client) (space : String) (t : Fixture) (rows : List Row) : Step Unit := do
  let table ← load c space t
  let batch ← Step.ofResult (layout table.schema rows)
  Step.ofEngine (·.commit (levels space) t.name batch)

def committedRows : List Batch → Except SessionError (List Row)
  | [] => .ok []
  | b :: bs => do
    let rows ← b.rows.mapError fun missing => SessionError.unexpectedData missing.message
    return rows ++ (← committedRows bs)

/-- Rows are read only with the schema they were written with. -/
def observed (t : Fixture) (table : ServedTable) : Except SessionError TableScan :=
  let schema := table.schema.toSchema
  if schema = t.schema then (committedRows table.commits).map (⟨schema, ·⟩) else .ok ⟨schema, []⟩

def scan (c : Client) (space : String) (t : Fixture) : Step TableScan := do
  let table ← load c space t
  Step.ofResult (observed t table)

def drop (c : Client) (space : String) (t : Fixture) (mode : DropMode) : Step Unit :=
  Step.ofClient (c.dropTable space t.name mode.isPurge)

def bounded {α : Type} (operation : String) (step : Step α) (s : RestSession) :
    Exchange (Except SessionError α × RestSession) :=
  (step s.engine).bind fun (r, engine) =>
    .done (r.mapError (·.error operation s.client.config.timeout s.operationTimeout),
      { s with engine })

def answer : (c : SessionCall) → RestSession → Exchange (c.Answer × RestSession)
  | .ensureNamespace space, s => bounded "ensure_namespace" (ensureNamespace space) s
  | .create space t, s => bounded "create_or_replace_table" (create s.client space t) s
  | .append space t rows, s => bounded "append_rows" (append s.client space t rows) s
  | .scan space t, s => bounded "scan_table" (scan s.client space t) s
  | .drop space t mode, s => bounded "drop_table" (drop s.client space t mode) s

def clientConfig (c : WorkloadConfig) : Except ClientError ClientConfig :=
  (ClientConfig.ofText c.catalogUrl.display c.warehouse).map fun config => { config with
    authentication := c.credentials.authentication
    connectTimeout := c.connectTimeout }

def ready (client : Client) : Act :=
  .log ⟨.debug, "migration_tests::session::rest", "session ready",
    [("prefix", .rendered (Text.optional Text.quoted client.pathPrefix))]⟩

def connect (c : WorkloadConfig) : Exchange (Except Failure RestSession) :=
  let failure (e : ClientError) : Failure := .connection c.catalogUrl.display e.sessionError
  match clientConfig c with
  | .error e => .done (.error (failure e))
  | .ok config => (Client.connect config).bind fun
    | .error e => .done (.error (failure e))
    | .ok client => .act (ready client) (.done (.ok ⟨client, .ofConfig c, c.operationTimeout⟩))

def run (c : WorkloadConfig) (task : Task) : Exchange (Except Failure Report) :=
  (connect c).andThen fun s => ((c.workload.run task).translate answer s).bind fun (r, _) => .done r

end RestSession

end CatalogMigration
