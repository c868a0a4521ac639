import CatalogMigration.Failure
import CatalogMigration.Table.Batch
import CatalogMigration.Text.Grid

namespace CatalogMigration

open Numeral

structure TableScan where
  schema : TableSchema
  rows : List Row
deriving DecidableEq

def ColumnType.valueType : ColumnType → ValueType
  | .long => .long
  | .string => .string
  | .float => .float
  | .other _ => .absent

namespace TableScan

def sortedRows (s : TableScan) : List Row := CatalogMigration.sortedRows s.rows

/-- A column of the fixtures where name and type are theirs, else nothing but nulls. -/
def batchColumn (rows : List Row) (c : Column) : BatchField × Values :=
  let type := c.type.valueType
  (⟨c.name, type, true⟩,
    match fixtureColumn? c.name rows with
    | some values => if values.type = type then values else .nulls type rows.length
    | none => .nulls type rows.length)

def toBatch (s : TableScan) : Except BatchFault Batch :=
  Batch.ofColumns (s.schema.columns.map (batchColumn s.sortedRows))

def display (s : TableScan) : String :=
  match s.toBatch with
  | .error fault =>
    "<" ++ decimalText s.rows.length ++ " scanned rows: " ++ fault.message ++ ">"
  | .ok batch =>
    let cells := batch.columns.map Values.shown
    Text.Grid.render (batch.fields.map (·.name))
      ((List.range batch.rowCount).map fun i => cells.map fun column => column[i]?.getD "")

end TableScan

namespace Fixture

def expectedRows (_ : Fixture) : List Row := fixtureRows

/-- The schema decides first, then the rows in the order of their identifiers. -/
def verify (t : Fixture) (scan : TableScan) : Except ReadFailure Unit :=
  if scan.schema ≠ t.schema then .error (.schemaMismatch t.schema scan.schema)
  else
    let expected := sortedRows t.expectedRows
    if sameRows scan.sortedRows expected then .ok ()
    else .error (.rowMismatch expected scan.sortedRows)

end Fixture

end CatalogMigration
