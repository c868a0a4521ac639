import CatalogMigration.Json.Basic
import CatalogMigration.Numeral.Digits
import CatalogMigration.Table.Batch
import CatalogMigration.Text.Grid

namespace CatalogMigration

open Numeral

inductive PrimitiveType
  | boolean
  | int
  | long
  | float
  | double
  | decimal (precision scale : Nat)
  | date
  | time
  | moment (nanos zoned : Bool)
  | string
  | uuid
  | fixed (length : Nat)
  | binary
deriving DecidableEq, Repr

inductive DecimalFault
  | precision
  | scale
  | together
deriving DecidableEq, Repr

def DecimalFault.message : DecimalFault → String
  | .precision => "incompatible precision for decimal type convert"
  | .scale => "incompatible scale for decimal type convert"
  | .together => "incompatible precision and scale for decimal type convert"

namespace PrimitiveType

def display : PrimitiveType → String
  | .boolean => "boolean"
  | .int => "int"
  | .long => "long"
  | .float => "float"
  | .double => "double"
  | .decimal p s => "decimal(" ++ decimalText p ++ "," ++ decimalText s ++ ")"
  | .date => "date"
  | .time => "time"
  | .moment false false => "timestamp"
  | .moment false true => "timestamptz"
  | .moment true false => "timestamp_ns"
  | .moment true true => "timestamptz_ns"
  | .string => "string"
  | .uuid => "uuid"
  | .fixed n => "fixed(" ++ decimalText n ++ ")"
  | .binary => "binary"

def valueType : PrimitiveType → ValueType
  | .boolean => .other "Boolean"
  | .int => .other "Int32"
  | .long => .long
  | .float => .float
  | .double => .other "Float64"
  | .decimal p s => .other ("Decimal128(" ++ decimalText p ++ ", " ++ decimalText s ++ ")")
  | .date => .other "Date32"
  | .time => .other "Time64(Microsecond)"
  | .moment nanos zoned =>
    .other ("Timestamp(" ++ (if nanos then "Nanosecond" else "Microsecond") ++ ", "
      ++ (if zoned then "Some(\"+00:00\")" else "None") ++ ")")
  | .string => .string
  | .uuid => .other "FixedSizeBinary(16)"
  | .fixed n => .other ("FixedSizeBinary(" ++ decimalText n ++ ")")
  | .binary => .other "LargeBinary"

/-- What of a decimal is beyond the decimals of a batch. The number of digits and how many of them
are behind the point are bytes, looked at one by one, before they have to fit together. -/
def decimalFault? : PrimitiveType → Option DecimalFault
  | .decimal precision scale =>
    if 255 < precision then some .precision
    else if 127 < scale then some .scale
    else if precision = 0 ∨ 38 < precision ∨ precision < scale then some .together
    else none
  | _ => none

def plain : List PrimitiveType :=
  [.boolean, .int, .long, .float, .double, .date, .time, .moment false false, .moment false true,
    .moment true false, .moment true true, .string, .uuid, .binary]

def between? (front back text : String) : Option (List Char) :=
  let cs := text.toList
  if front.toList.isPrefixOf cs && back.toList.isSuffixOf cs then
    some ((cs.drop front.length).take (cs.length - front.length - back.length))
  else none

def number? (cs : List Char) : Option Nat := value? 10 (cs.filter (· ≠ ' '))

def ofName? (name : String) : Option PrimitiveType :=
  match plain.find? (·.display = name) with
  | some p => some p
  | none =>
    match between? "decimal(" ")" name, between? "fixed[" "]" name with
    | some cs, _ =>
      match Text.splitOn ',' cs with
      | [p, s] => do return .decimal (← number? p) (← number? s)
      | _ => none
    | none, some cs => (number? cs).map .fixed
    | none, none => none

end PrimitiveType

inductive FieldType
  | primitive (p : PrimitiveType)
  | struct (members : List FieldType)
  | list
  | map

namespace FieldType

mutual

def display : FieldType → String
  | .primitive p => p.display
  | .struct members => "struct<" ++ displayAll members ++ ">"
  | .list => "list"
  | .map => "map"

def displayAll : List FieldType → String
  | [] => ""
  | t :: ts => t.display ++ displayAll ts

end

def valueType : FieldType → ValueType
  | .primitive p => p.valueType
  | t => .other t.display

mutual

def decimalFault? : FieldType → Option DecimalFault
  | .primitive p => p.decimalFault?
  | .struct members => decimalFaultOfAll? members
  | .list | .map => none

def decimalFaultOfAll? : List FieldType → Option DecimalFault
  | [] => none
  | t :: ts => t.decimalFault?.or (decimalFaultOfAll? ts)

end

def columnType : FieldType → ColumnType
  | .primitive .long => .long
  | .primitive .string => .string
  | .primitive .float => .float
  | t => .other t.display

mutual

def ofJson? : Json → Option FieldType
  | .text name => (PrimitiveType.ofName? name).map .primitive
  | .object members => ofMembers? none [] members
  | _ => none

def ofMembers? (kind : Option String) (inner : List FieldType) :
    List (String × Json) → Option FieldType
  | [] =>
    match kind with
    | some "struct" => some (.struct inner)
    | some "list" => some .list
    | some "map" => some .map
    | _ => none
  | ("type", .text kind) :: rest => ofMembers? (some kind) inner rest
  | ("fields", .array items) :: rest =>
    match ofFields? items with
    | some inner => ofMembers? kind inner rest
    | none => none
  | _ :: rest => ofMembers? kind inner rest

def ofFields? : List Json → Option (List FieldType)
  | [] => some []
  | .object members :: rest =>
    match ofFieldMembers? members, ofFields? rest with
    | some t, some ts => some (t :: ts)
    | _, _ => none
  | _ => none

def ofFieldMembers? : List (String × Json) → Option FieldType
  | [] => none
  | ("type", j) :: _ => ofJson? j
  | _ :: rest => ofFieldMembers? rest

end

end FieldType

end CatalogMigration
