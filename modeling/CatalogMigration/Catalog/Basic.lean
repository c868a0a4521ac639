import CatalogMigration.Assoc
import CatalogMigration.Session.Call

namespace CatalogMigration

structure TableKey where
  space : String
  table : String
deriving DecidableEq, Repr

def TableKey.display (k : TableKey) : String := k.space ++ "." ++ k.table

structure StoredTable where
  schema : TableSchema
  rows : List Row
deriving DecidableEq

structure Tombstone where
  table : StoredTable
  droppedAt : Span
deriving DecidableEq

structure DropRecord where
  key : TableKey
  mode : DropMode
  droppedAt : Span
deriving DecidableEq, Repr

structure Catalog where
  retention : Span
  spaces : List String
  live : Assoc TableKey StoredTable
  tombstones : Assoc TableKey Tombstone
  drops : List DropRecord
  unreachable : Bool
  failingAppends : List String
  failingDrops : List String
deriving DecidableEq

namespace Catalog

def empty (retention : Span) : Catalog := ⟨retention, [], .empty, .empty, [], false, [], []⟩

def defaultRetention : Span := .ofSeconds 1

def isRetained (c : Catalog) (now : Span) (t : Tombstone) : Bool :=
  now.nanos - t.droppedAt.nanos < c.retention.nanos

def offline : SessionError := .unreachable "in-memory catalog is offline"

def origin : String := "migration_tests::session::in_memory"

def created (space : String) : Event :=
  ⟨.debug, origin, "created namespace", [("namespace", .text space)]⟩

def createdTable (key : TableKey) (replaced : Bool) : Event :=
  ⟨.debug, origin, "created table",
    [("namespace", .text key.space), ("table", .text key.table),
      ("replaced", .rendered (if replaced then "true" else "false"))]⟩

def ensureNamespace (c : Catalog) (space : String) : Catalog × List Event :=
  if space ∈ c.spaces then (c, []) else ({ c with spaces := space :: c.spaces }, [created space])

def create (c : Catalog) (space : String) (t : Fixture) :
    Except SessionError Unit × Catalog × List Event :=
  let key := ⟨space, t.name⟩
  if space ∈ c.spaces then
    (.ok (), { c with live := c.live.insert key ⟨t.schema, []⟩ },
      [createdTable key (c.live.get? key).isSome])
  else (.error (.notFound ("namespace " ++ space)), c, [])

def append (c : Catalog) (space : String) (t : Fixture) (rows : List Row) :
    Except SessionError Unit × Catalog :=
  let key : TableKey := ⟨space, t.name⟩
  if t.name ∈ c.failingAppends then
    (.error (.catalog ("commit to " ++ key.display ++ " rejected")), c)
  else match c.live.get? key with
    | none => (.error (.notFound key.display), c)
    | some stored =>
      (.ok (), { c with live := c.live.insert key { stored with rows := stored.rows ++ rows } })

def scan (c : Catalog) (space : String) (t : Fixture) : Except SessionError TableScan :=
  let key : TableKey := ⟨space, t.name⟩
  match c.live.get? key with
  | none => .error (.notFound key.display)
  | some stored => .ok ⟨stored.schema, stored.rows⟩

/-- A soft drop leaves a tombstone, a purge leaves none. -/
def drop (c : Catalog) (now : Span) (space : String) (t : Fixture) (mode : DropMode) :
    Except SessionError Unit × Catalog :=
  let key : TableKey := ⟨space, t.name⟩
  if t.name ∈ c.failingDrops then
    (.error (.catalog ("drop of " ++ key.display ++ " rejected")), c)
  else match c.live.get? key with
    | none => (.error (.notFound key.display), c)
    | some stored =>
      (.ok (), { c with
        live := c.live.erase key
        tombstones := match mode with
          | .soft => c.tombstones.insert key ⟨stored, now⟩
          | .purge => c.tombstones.erase key
        drops := c.drops ++ [⟨key, mode, now⟩] })

/-- An unreachable catalog answers no call. -/
def answer : SessionHost Catalog := fun call now c =>
  if c.unreachable then
    (match call with
      | .ensureNamespace .. | .create .. | .append .. | .scan .. | .drop .. => .error offline,
      c, [])
  else match call with
    | .ensureNamespace space =>
      let (c, events) := c.ensureNamespace space
      (.ok (), c, events)
    | .create space t => c.create space t
    | .append space t rows =>
      let (r, c) := c.append space t rows
      (r, c, [])
    | .scan space t => (c.scan space t, c, [])
    | .drop space t mode =>
      let (r, c) := c.drop now space t mode
      (r, c, [])

def replaceRows (c : Catalog) (key : TableKey) (rows : List Row) : Bool × Catalog :=
  ((c.live.get? key).isSome, { c with live := c.live.modify key fun t => { t with rows } })

def replaceSchema (c : Catalog) (key : TableKey) (schema : TableSchema) : Bool × Catalog :=
  ((c.live.get? key).isSome, { c with live := c.live.modify key fun t => { t with schema } })

/-- Brings a softly dropped table back while it is retained. The tombstone is gone either way. -/
def undrop (c : Catalog) (now : Span) (key : TableKey) : Bool × Catalog :=
  match c.tombstones.get? key with
  | none => (false, c)
  | some t =>
    let c := { c with tombstones := c.tombstones.erase key }
    if c.isRetained now t then (true, { c with live := c.live.insert key t.table }) else (false, c)

def liveTables (c : Catalog) (space : String) : List String :=
  Named.sorted ((c.live.entries.filter (·.1.space = space)).map (·.1.table))

def tombstonedTables (c : Catalog) (now : Span) (space : String) : List String :=
  Named.sorted ((c.tombstones.entries.filter fun e =>
    e.1.space = space && c.isRetained now e.2).map (·.1.table))

end Catalog

end CatalogMigration
