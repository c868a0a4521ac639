import CatalogMigration.Command.Programs
import CatalogMigration.Http.Network

namespace CatalogMigration.Command

def fileFault : IO.Error → FileFault
  | .noFileOrDirectory .. => .missing
  | .inappropriateType .. => .isDirectory
  | _ => .missing

def readText (path : String) : IO (Except FileFault String) := do
  try
    let bytes ← IO.FS.readBinFile path
    return match String.fromUTF8? bytes with
      | some s => .ok s
      | none => .error .notText
  catch e => return .error (fileFault e)

def environment : IO (List (String × String)) := do
  let bytes ← try IO.FS.readBinFile "/proc/self/environ" catch _ => pure .empty
  let text := (String.fromUTF8? bytes).getD ""
  return (Text.splitOn '\x00' text.toList).filterMap fun entry =>
    match entry.span (· ≠ '=') with
    | (name, _ :: value) => some (String.ofList name, String.ofList value)
    | _ => none

def finish (e : Ending) : IO UInt32 := do
  IO.print e.output
  match e.failure with
  | some failure => IO.eprintln failure.message
  | none => pure ()
  return UInt32.ofNat e.code

end CatalogMigration.Command

open CatalogMigration Command

def main : List String → IO UInt32
  | "initial-versions" :: args => do finish (← InitialVersions.run readText args)
  | "migration-workload" :: args => do
    let p := MigrationWorkload.run args (.ofPairs (← environment))
    finish (p.run Network.down (.opening () .zero)).1
  | _ => do
    IO.eprintln "expected initial-versions or migration-workload"
    return 2
