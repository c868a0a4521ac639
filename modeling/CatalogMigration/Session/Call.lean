import CatalogMigration.Failure
import CatalogMigration.Session.Program
import CatalogMigration.Table.Scan

namespace CatalogMigration

inductive SessionCall
  | ensureNamespace (space : String)
  | create (space : String) (table : Fixture)
  | append (space : String) (table : Fixture) (rows : List Row)
  | scan (space : String) (table : Fixture)
  | drop (space : String) (table : Fixture) (mode : DropMode)
deriving DecidableEq

namespace SessionCall

@[reducible] def Result : SessionCall → Type
  | .scan .. => TableScan
  | _ => Unit

abbrev Answer (c : SessionCall) : Type := Except SessionError c.Result

end SessionCall

abbrev SessionProgram := Program SessionCall SessionCall.Answer

abbrev SessionHost (σ : Type) := Host SessionCall SessionCall.Answer σ

/-- Goes on with the result of a call, or ends with the failure its error means. -/
def SessionProgram.attempt {α : Type} (c : SessionCall) (failure : SessionError → Failure)
    (next : c.Result → SessionProgram (Except Failure α)) : SessionProgram (Except Failure α) :=
  .call c fun
    | .error e => .done (.error (failure e))
    | .ok r => next r

/-- An answer written down beforehand. A scan that succeeds shows the table as it was written. -/
inductive ScriptEntry
  | fail (e : SessionError)
  | show (scan : TableScan)
  | succeed
deriving DecidableEq

namespace ScriptEntry

def answer : ScriptEntry → (c : SessionCall) → c.Answer
  | .fail e, .ensureNamespace .. | .fail e, .create .. | .fail e, .append .. | .fail e, .scan ..
  | .fail e, .drop .. => .error e
  | .show scan, .scan .. => .ok scan
  | .succeed, .scan _ t => .ok ⟨t.schema, t.expectedRows⟩
  | _, .ensureNamespace .. | _, .create .. | _, .append .. | _, .drop .. => .ok ()

end ScriptEntry

abbrev Script := List ScriptEntry

def Script.answer : SessionHost Script := fun c _ script =>
  ((script.head?.getD .succeed).answer c, script.tail, [])

end CatalogMigration
