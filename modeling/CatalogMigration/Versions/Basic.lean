import CatalogMigration.Failure
import CatalogMigration.Folder
import CatalogMigration.Json.Writer
import CatalogMigration.Toml.Reader

namespace CatalogMigration

open Numeral

inductive VersionsFault
  | unreadable (fault : Toml.ReadFault)
  | missing (path : List String)
  | notList
  | notText (index : Nat) (entry : Toml)

namespace Versions

def path : List String := ["package", "metadata", "migration-tests", "versions"]

def pathText (names : List String) : String := ".".intercalate names

end Versions

def VersionsFault.message : VersionsFault → String
  | .unreadable fault => "invalid TOML: " ++ fault.message
  | .missing names => "missing key " ++ Versions.pathText names
  | .notList => Versions.pathText Versions.path ++ " is not an array"
  | .notText index entry =>
    Versions.pathText Versions.path ++ "[" ++ decimalText index ++ "] is not a string: "
      ++ entry.display

namespace Versions

/-- The value at a path below `seen`, or the part of the path that leads nowhere. -/
def lookup (seen : List String) : List String → Toml → Except VersionsFault Toml
  | [], v => .ok v
  | name :: names, v =>
    match v.member? name with
    | some v => lookup (seen ++ [name]) names v
    | none => .error (.missing (seen ++ [name]))

def texts (index : Nat) : List Toml → Except VersionsFault (List String)
  | [] => .ok []
  | .text s :: items => (texts (index + 1) items).map (s :: ·)
  | item :: _ => .error (.notText index item)

def ofToml (document : Toml) : Except VersionsFault (List String) :=
  match lookup [] path document with
  | .error fault => .error fault
  | .ok (.array items) => texts 0 items
  | .ok _ => .error .notList

def ofText (origin contents : String) : Except Failure (List String) :=
  match (Toml.ofText contents).mapError .unreadable >>= ofToml with
  | .ok versions => .ok versions
  | .error fault => .error (.config origin fault.message)

def inlineOrigin : String := "<inline>"

def ofFound (path : String) : Except FileFault String → Except Failure (List String)
  | .error fault => .error (.config path fault.message)
  | .ok contents => ofText path contents

def ofFile (f : Folder) (path : String) : Except Failure (List String) :=
  ofFound path (f.readText path)

def standardPath : String := "migration-tests/Cargo.toml"

def list (versions : List String) : Json := .texts versions

def matrix (versions : List String) : String :=
  (Json.object [("versions", list versions)]).compact

def assignment (name : String) (versions : List String) : String :=
  name ++ "=" ++ (list versions).compact

def standardName : String := "initial-versions"

def quoted (version : String) : String := "\"" ++ version ++ "\""

def manifest (versions : List String) : String :=
  "[package]\nname = \"migration_tests\"\nversion = \"0.0.0\"\n\n[package.metadata.migration-tests]\n"
    ++ "versions = [" ++ ", ".intercalate (versions.map quoted) ++ "]\n"

def manifestFile : String := "Cargo.toml"

end Versions

end CatalogMigration
