import CatalogMigration.Table.Row
import CatalogMigration.Table.Schema

namespace CatalogMigration

open Numeral

inductive Values
  | longs (cells : List (Option Int))
  | strings (cells : List (Option String))
  | floats (cells : List (Option Single))
  | absent (count : Nat)
deriving DecidableEq

inductive ValueType
  | long
  | string
  | float
  | absent
  | other (name : String)
deriving DecidableEq, Repr

def ValueType.diagnostic : ValueType → String
  | .long => "Int64"
  | .string => "Utf8"
  | .float => "Float32"
  | .absent => "Null"
  | .other name => name

namespace Values

def type : Values → ValueType
  | .longs _ => .long
  | .strings _ => .string
  | .floats _ => .float
  | .absent _ => .absent

def length : Values → Nat
  | .longs cells => cells.length
  | .strings cells => cells.length
  | .floats cells => cells.length
  | .absent count => count

/-- An absent column keeps no record of its nulls. -/
def nullCount : Values → Nat
  | .longs cells => cells.countP Option.isNone
  | .strings cells => cells.countP Option.isNone
  | .floats cells => cells.countP Option.isNone
  | .absent _ => 0

def nulls : ValueType → Nat → Values
  | .long, n => .longs (List.replicate n none)
  | .string, n => .strings (List.replicate n none)
  | .float, n => .floats (List.replicate n none)
  | _, n => .absent n

def shown : Values → List String
  | .longs cells => cells.map fun c => (c.map signedText).getD "NULL"
  | .strings cells => cells.map fun c => c.getD "NULL"
  | .floats cells =>
    cells.map fun c => (c.map fun x => String.ofList (Style.tableSingle.render x)).getD "NULL"
  | .absent n => List.replicate n "NULL"

end Values

structure BatchField where
  name : String
  type : ValueType
  nullable : Bool
deriving DecidableEq, Repr

structure Batch where
  fields : List BatchField
  columns : List Values
  rowCount : Nat
deriving DecidableEq

inductive BatchFault
  | noColumns
  | nullInRequired (name : String)
  | lengths
  | typeMismatch (index : Nat) (expected found : ValueType)
deriving DecidableEq, Repr

def BatchFault.message (fault : BatchFault) : String :=
  "Invalid argument error: " ++ match fault with
    | .noColumns => "must either specify a row count or at least one column"
    | .nullInRequired name =>
      "Column '" ++ name ++ "' is declared as non-nullable but contains null values"
    | .lengths => "all columns in a record batch must have the same length"
    | .typeMismatch index expected found =>
      "column types must match schema types, expected " ++ expected.diagnostic ++ " but found "
        ++ found.diagnostic ++ " at column index " ++ decimalText index

namespace Batch

def firstMismatch? (index : Nat) : List (BatchField × Values) → Option BatchFault
  | [] => none
  | (f, c) :: rest =>
    if c.type = f.type then firstMismatch? (index + 1) rest
    else some (.typeMismatch index f.type c.type)

def ofColumns : List (BatchField × Values) → Except BatchFault Batch
  | [] => .error .noColumns
  | pairs@((_, first) :: _) =>
    match pairs.find? (fun p => !p.1.nullable && 0 < p.2.nullCount) with
    | some p => .error (.nullInRequired p.1.name)
    | none =>
      if pairs.any (·.2.length ≠ first.length) then .error .lengths
      else match firstMismatch? 0 pairs with
        | some fault => .error fault
        | none => .ok ⟨pairs.map (·.1), pairs.map (·.2), first.length⟩

def column? (b : Batch) (name : String) : Option Values :=
  ((b.fields.zip b.columns).find? (·.1.name = name)).map (·.2)

end Batch

def fixtureColumn? (name : String) (rows : List Row) : Option Values :=
  if name = "id" then some (.longs (rows.map (·.id)))
  else if name = "strings" then some (.strings (rows.map (·.strings)))
  else if name = "floats" then some (.floats (rows.map (·.floats)))
  else none

end CatalogMigration
