import CatalogMigration.Table.FieldType

namespace CatalogMigration

open Numeral

structure Field where
  id : Nat
  name : String
  type : FieldType
  required : Bool

structure FieldSchema where
  fields : List Field

def ColumnType.fieldType? : ColumnType → Option FieldType
  | .long => some (.primitive .long)
  | .string => some (.primitive .string)
  | .float => some (.primitive .float)
  | .other _ => none

def Field.column (f : Field) : Column := ⟨f.name, f.type.columnType, !f.required⟩

namespace FieldSchema

def toSchema (s : FieldSchema) : TableSchema := ⟨s.fields.map Field.column⟩

inductive Fault
  | noType (column type : String)
  | repeatedName (name : String) (later earlier : Nat)
deriving DecidableEq, Repr

def numbered (next : Nat) : List Column → Except Fault (List Field)
  | [] => .ok []
  | c :: cs =>
    match c.type.fieldType? with
    | none => .error (.noType c.name c.type.display)
    | some type => do
      let fields ← numbered (next + 1) cs
      return ⟨next, c.name, type, !c.nullable⟩ :: fields

def repeated? (seen : List Field) : List Field → Option Fault
  | [] => none
  | f :: fs =>
    match seen.find? (·.name = f.name) with
    | some earlier => some (.repeatedName f.name f.id earlier.id)
    | none => repeated? (seen ++ [f]) fs

/-- The stored form of a schema: every column has a stored type, and no two share a name. -/
def ofSchema (s : TableSchema) : Except Fault FieldSchema := do
  let fields ← numbered 1 s.columns
  match repeated? [] fields with
  | some fault => throw fault
  | none => return ⟨fields⟩

inductive LayoutFault
  | decimal (fault : DecimalFault)
  | noValues (column : String)
  | batch (fault : BatchFault)
deriving DecidableEq, Repr

def LayoutFault.message : LayoutFault → String
  | .decimal fault => fault.message
  | .noValues column => "no fixture values for column " ++ column
  | .batch fault => fault.message

def batchField (f : Field) : BatchField := ⟨f.name, f.type.valueType, !f.required⟩

def columns (rows : List Row) : List Field → Except LayoutFault (List (BatchField × Values))
  | [] => .ok []
  | f :: fs =>
    match fixtureColumn? f.name rows with
    | none => .error (.noValues f.name)
    | some values => do return (batchField f, values) :: (← columns rows fs)

def decimalFault? (s : FieldSchema) : Option DecimalFault :=
  s.fields.findSome? (·.type.decimalFault?)

/-- Rows as a batch of the schema's fields. The types of the fields come before the rows. -/
def toBatch (s : FieldSchema) (rows : List Row) : Except LayoutFault Batch :=
  match s.decimalFault? with
  | some fault => .error (.decimal fault)
  | none => do (Batch.ofColumns (← columns rows s.fields)).mapError .batch

end FieldSchema

namespace Batch

structure MissingColumn where
  name : String
deriving DecidableEq, Repr

def MissingColumn.message (m : MissingColumn) : String :=
  "column " ++ m.name ++ " is missing or has an unexpected type"

def longs (b : Batch) (name : String) : Except MissingColumn (List (Option Int)) :=
  match b.column? name with
  | some (.longs cells) => .ok cells
  | _ => .error ⟨name⟩

def strings (b : Batch) (name : String) : Except MissingColumn (List (Option String)) :=
  match b.column? name with
  | some (.strings cells) => .ok cells
  | _ => .error ⟨name⟩

def floats (b : Batch) (name : String) : Except MissingColumn (List (Option Single)) :=
  match b.column? name with
  | some (.floats cells) => .ok cells
  | _ => .error ⟨name⟩

/-- The rows of a batch that has the three fixture columns, in any order. -/
def rows (b : Batch) : Except MissingColumn (List Row) := do
  let ids ← b.longs "id"
  let strings ← b.strings "strings"
  let floats ← b.floats "floats"
  return (ids.zip (strings.zip floats)).map fun (id, s, f) => ⟨id, s, f⟩

end Batch

end CatalogMigration
