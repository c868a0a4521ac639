import CatalogMigration.Numeral.Shortest

namespace CatalogMigration

inductive JsonNumber
  | integer (n : Int)
  | float (x : Numeral.Double)
deriving DecidableEq

inductive Json
  | null
  | bool (b : Bool)
  | number (n : JsonNumber)
  | text (s : String)
  /-- A text whose escapes name half a pair of surrogates, which is no text, or an object with
  such a name. -/
  | broken
  | array (items : List Json)
  | object (members : List (String × Json))
deriving Inhabited

namespace Json

def nat (n : Nat) : Json := .number (.integer n)

def int (n : Int) : Json := .number (.integer n)

def texts (ss : List String) : Json := .array (ss.map .text)

def member? (name : String) : Json → Option Json
  | .object members => (members.reverse.find? (·.1 = name)).map (·.2)
  | _ => none

end Json

end CatalogMigration
