import CatalogMigration.Span
import CatalogMigration.Table.Fixture

namespace CatalogMigration

open Numeral

inductive SessionError
  | notFound (what : String)
  | unreachable (reason : String)
  | timeout (operation : String) (limit : Span)
  | catalog (reason : String)
  | unexpectedData (reason : String)
deriving DecidableEq, Repr

namespace SessionError

def message : SessionError → String
  | .notFound what => what ++ " not found"
  | .unreachable reason => "Catalog unreachable: " ++ reason
  | .timeout operation limit => operation ++ " did not finish within " ++ limit.display
  | .catalog reason => "Catalog error: " ++ reason
  | .unexpectedData reason => "Unexpected table data: " ++ reason

def isNotFound : SessionError → Bool
  | .notFound _ => true
  | _ => false

end SessionError

inductive ReadFailure
  | notFound
  | unreadable (source : SessionError)
  | schemaMismatch (expected actual : TableSchema)
  | rowMismatch (expected actual : List Row)
deriving DecidableEq

def ReadFailure.message : ReadFailure → String
  | .notFound => "table not found"
  | .unreadable source => "table is unreadable: " ++ source.message
  | .schemaMismatch expected actual =>
    "schema changed, expected " ++ expected.display ++ " but found " ++ actual.display
  | .rowMismatch expected actual =>
    "rows changed, expected " ++ rowsDiagnostic expected ++ " but found " ++ rowsDiagnostic actual

structure DropFailure where
  table : String
  mode : DropMode
  source : SessionError
deriving DecidableEq, Repr

def DropFailure.message (f : DropFailure) : String :=
  f.table ++ " (" ++ f.mode.display ++ " drop): " ++ f.source.message

inductive Failure
  | config (origin reason : String)
  | connection (catalogUrl : String) (source : SessionError)
  | write (table : String) (source : SessionError)
  | drop (failures : List DropFailure)
  | read (table : String) (failure : ReadFailure)
  | invalidFixtures (reason : String)
deriving DecidableEq

namespace Failure

def message : Failure → String
  | .config origin reason => "Invalid migration test configuration (" ++ origin ++ "): " ++ reason
  | .connection url source =>
    "Failed to set up a session against catalog " ++ url ++ ": " ++ source.message
  | .write table source => "Failed to write table " ++ table ++ ": " ++ source.message
  | .drop failures =>
    "Failed to drop " ++ decimalText failures.length ++ " table(s): "
      ++ "; ".intercalate (failures.map DropFailure.message)
  | .read table failure => "Migration incompatibility in table " ++ table ++ ": " ++ failure.message
  | .invalidFixtures reason => "Invalid table fixtures: " ++ reason

/-- The failures that mean a migration broke data written before it. -/
def isIncompatibility : Failure → Bool
  | .read .. => true
  | _ => false

def source? : Failure → Option SessionError
  | .connection _ source | .write _ source => some source
  | _ => none

end Failure

end CatalogMigration
