import CatalogMigration.Json.Basic
import CatalogMigration.Assoc
import CatalogMigration.Text.Grid

namespace CatalogMigration.Json

open Numeral

def escape (c : Char) : List Char :=
  match c with
  | '"' => ['\\', '"']
  | '\\' => ['\\', '\\']
  | '\n' => ['\\', 'n']
  | '\r' => ['\\', 'r']
  | '\t' => ['\\', 't']
  | '\x08' => ['\\', 'b']
  | '\x0c' => ['\\', 'f']
  | c => if c.toNat < 0x20 then ['\\', 'u'] ++ padded 4 (hexadecimal c.toNat) else [c]

def writeText (s : String) : List Char := '"' :: s.toList.flatMap escape ++ ['"']

def writeNumber : JsonNumber → List Char
  | .integer n => signed n
  | .float x =>
    if x.isNaN || x.isInfinite then ['n', 'u', 'l', 'l'] else Style.documentDouble.render x

mutual

def write : Json → List Char
  | .null => ['n', 'u', 'l', 'l']
  | .bool true => ['t', 'r', 'u', 'e']
  | .bool false => ['f', 'a', 'l', 's', 'e']
  | .number n => writeNumber n
  | .text s => writeText s
  | .broken => ['n', 'u', 'l', 'l']
  | .array items => '[' :: Text.joinedWith [','] (writeItems items) ++ [']']
  | .object members => '\x7b' :: Text.joinedWith [','] (writeMembers members) ++ ['\x7d']

def writeItems : List Json → List (List Char)
  | [] => []
  | item :: items => write item :: writeItems items

def writeMembers : List (String × Json) → List (List Char)
  | [] => []
  | (name, value) :: members => (writeText name ++ ':' :: write value) :: writeMembers members

end

def compact (j : Json) : String := String.ofList j.write

mutual

/-- Members by name, the last of a repeated name. -/
def canonical : Json → Json
  | .array items => .array (canonicalItems items)
  | .object members => .object (Named.ofList (canonicalMembers members))
  | j => j

def canonicalItems : List Json → List Json
  | [] => []
  | item :: items => canonical item :: canonicalItems items

def canonicalMembers : List (String × Json) → List (String × Json)
  | [] => []
  | (name, value) :: members => (name, canonical value) :: canonicalMembers members

end

end CatalogMigration.Json
