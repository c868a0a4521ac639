import CatalogMigration.Json.Basic
import CatalogMigration.Assoc

namespace CatalogMigration.Json

/-- The values of the fields, as far as they are there. No field is there twice. -/
def fields? (names : List String) : Json → Option (List (Option Json))
  | .object members =>
    if names.any fun n => 1 < members.countP (·.1 = n) then none
    else some (names.map fun n => (members.find? (·.1 = n)).map (·.2))
  | .array items =>
    if names.length < items.length then none
    else some (items.map some ++ List.replicate (names.length - items.length) none)
  | _ => none

def text? : Json → Option String
  | .text s => some s
  | _ => none

def natBelow? (bound : Nat) : Json → Option Nat
  | .number (.integer n) => if 0 ≤ n ∧ n < bound then some n.toNat else none
  | _ => none

def texts? : Json → Option (List (String × String))
  | .object members => do
    return Named.ofList (← members.mapM fun (name, value) => do return (name, ← value.text?))
  | _ => none

def optional? {α : Type} (read : Json → Option α) : Option Json → Option (Option α)
  | none | some .null => some none
  | some j => (read j).map some

def defaulted? {α : Type} (standard : α) (read : Json → Option α) : Option Json → Option α
  | none => some standard
  | some j => read j

end CatalogMigration.Json
