import CatalogMigration.Log.Event
import CatalogMigration.Text.Grid
import CatalogMigration.Text.Quoted

namespace CatalogMigration

def LogValue.inLine : LogValue → String
  | .text s => Text.quoted s
  | .rendered s => s

def Scope.display (s : Scope) : String :=
  s.name ++ "\x7b" ++ " ".intercalate (s.fields.map fun (k, v) => k ++ "=" ++ v) ++ "\x7d"

namespace LogEntry

def level (e : LogEntry) : String :=
  String.ofList (List.replicate (5 - e.event.level.display.length) ' ') ++ e.event.level.display

def display (e : LogEntry) : String :=
  e.level ++ " "
    ++ (if e.scopes.isEmpty then "" else ":".intercalate (e.scopes.map Scope.display) ++ ": ")
    ++ e.event.origin ++ ": " ++ e.event.message
    ++ String.join (e.event.fields.map fun (k, v) => " " ++ k ++ "=" ++ v.inLine)

def lines (e : LogEntry) : List (List Char) := Text.splitOn '\n' e.display.toList

end LogEntry

def occursIn (text : List Char) : List Char → Bool
  | [] => text.isEmpty
  | c :: cs => text.isPrefixOf (c :: cs) || occursIn text cs

def linesContaining (text : String) (log : List LogEntry) : List String :=
  ((log.flatMap LogEntry.lines).filter (occursIn text.toList)).map String.ofList

inductive UnmetExpectation
  | noError
  | otherText (expected actual : String)
deriving DecidableEq, Repr

def UnmetExpectation.message : UnmetExpectation → String
  | .noError => "Expected error, but got Ok result"
  | .otherText expected actual =>
    "Error message does not contain the expected message.\nExpected message:\t" ++ expected
      ++ "\nActual message:\t\t" ++ actual

def expectError {ε α : Type} (message : ε → String) (text : String) :
    Except ε α → Except UnmetExpectation Unit
  | .ok _ => .error .noError
  | .error e =>
    if occursIn text.toList (message e).toList then .ok () else .error (.otherText text (message e))

end CatalogMigration
