import CatalogMigration.Numeral.Digits
import CatalogMigration.Text.Unprinted

namespace CatalogMigration.Text

def isPrinted (c : Char) : Bool :=
  if c.toNat < 0x7f then 0x20 ≤ c.toNat
  else !among unassignedOrControl c && !among extending c

namespace Quoted

def numbered (c : Char) : List Char :=
  ['\\', 'u', '\x7b'] ++ Numeral.hexadecimal c.toNat ++ ['\x7d']

def escape (c : Char) : List Char :=
  match c with
  | '"' => ['\\', '"']
  | '\\' => ['\\', '\\']
  | '\n' => ['\\', 'n']
  | '\r' => ['\\', 'r']
  | '\t' => ['\\', 't']
  | '\x00' => ['\\', '0']
  | c => if isPrinted c then [c] else numbered c

def encode (s : List Char) : List Char := '"' :: s.flatMap escape ++ ['"']

end Quoted

def quoted (s : String) : String := String.ofList (Quoted.encode s.toList)

def optional {α : Type} (render : α → String) : Option α → String
  | none => "None"
  | some a => "Some(" ++ render a ++ ")"

def record (name : String) (fields : List (String × String)) : String :=
  name ++ " \x7b " ++ ", ".intercalate (fields.map fun (k, v) => k ++ ": " ++ v) ++ " \x7d"

def redacted : String := "********"

def truth (b : Bool) : String := if b then "true" else "false"

end CatalogMigration.Text
