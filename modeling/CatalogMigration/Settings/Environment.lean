import CatalogMigration.Assoc
import CatalogMigration.Numeral.Reader
import CatalogMigration.Settings.Reader
import CatalogMigration.Text.Grid

namespace CatalogMigration

open Text

abbrev SettingTable := List (String × SettingValue)

/-- Variables in order, one value per name. -/
abbrev Environment := List (String × String)

namespace Environment

def set (env : Environment) (name value : String) : Environment :=
  if env.any (·.1 = name) then env.map fun e => if e.1 = name then (name, value) else e
  else env ++ [(name, value)]

def ofPairs (pairs : List (String × String)) : Environment :=
  pairs.foldl (fun env e => env.set e.1 e.2) []

def variablePrefix : List Char := "MIGRATION_TEST__".toList

def raised (c : Char) : Char := if 'a' ≤ c && c ≤ 'z' then Char.ofNat (c.toNat - 32) else c

def nameOf (setting : String) : String :=
  String.ofList (variablePrefix ++ setting.toList.map raised)

/-- Two underscores are as good as a point. -/
def pointed : List Char → List Char
  | '_' :: '_' :: cs => '.' :: pointed cs
  | c :: cs => c :: pointed cs
  | [] => []

def path? (name : String) : Option (List String) :=
  let cs := trimmed name.toList
  if (cs.take variablePrefix.length).map Numeral.lowered = variablePrefix.map Numeral.lowered then
    let key := (trimmed (pointed (cs.drop variablePrefix.length))).map Numeral.lowered
    let parts := splitOn '.' key
    if parts.any List.isEmpty then none else some (parts.map String.ofList)
  else none

/-- The setting of a path with a value. A longer path makes its first name a table. -/
def setting? (name value : String) : Option (String × SettingValue) :=
  match path? name with
  | some [key] => some (key, .ofText value)
  | some (key :: _ :: _) => some (key, .table)
  | _ => none

def settings (env : Environment) : SettingTable :=
  Named.ofList (env.filterMap fun (name, value) => setting? name value)

end Environment

end CatalogMigration
