import CatalogMigration.Text.Grid
import CatalogMigration.Url.Percent

namespace CatalogMigration

inductive FolderItem
  | directory
  | file (bytes : List UInt8)
deriving DecidableEq

/-- Items by the names that lead to them. The directories on the way are there too. -/
abbrev Folder := List (List String × FolderItem)

inductive FileFault
  | missing
  | isDirectory
  | notDirectory
  | longName
  | nulInPath
  | notText
deriving DecidableEq, Repr

def FileFault.message : FileFault → String
  | .missing => "No such file or directory (os error 2)"
  | .isDirectory => "Is a directory (os error 21)"
  | .notDirectory => "Not a directory (os error 20)"
  | .longName => "File name too long (os error 36)"
  | .nulInPath => "file name contained an unexpected NUL byte"
  | .notText => "stream did not contain valid UTF-8"

namespace Folder

def names (path : String) : List String := (Text.splitOn '/' path.toList).map String.ofList

def ofPaths (items : List (String × FolderItem)) : Folder :=
  items.map fun (path, item) => ((names path).filter fun n => n ≠ "" ∧ n ≠ ".", item)

def item? (f : Folder) (path : List String) : Option FolderItem :=
  match f.find? (·.1 = path) with
  | some (_, item) => some item
  | none =>
    if path = [] ∨ f.any fun e => path.isPrefixOf e.1 then some .directory else none

def longestName : Nat := 255

/-- The item that names lead to from a place in the folder. Nothing is known of what is outside
of it but that it is a directory. -/
def follow (f : Folder) : List String → List String → Except FileFault FolderItem
  | place, [] => match f.item? place with
    | some item => .ok item
    | none => .error .missing
  | place, name :: rest =>
    match f.item? place with
    | none => .error .missing
    | some (.file _) => .error .notDirectory
    | some .directory =>
      if name = "" ∨ name = "." then follow f place rest
      else if name = ".." then follow f place.dropLast rest
      else if longestName < name.utf8ByteSize then .error .longName
      else follow f (place ++ [name]) rest

def read (f : Folder) (path : String) : Except FileFault (List UInt8) :=
  if path.toList.contains '\x00' then .error .nulInPath
  else if path = "" then .error .missing
  else
    let found : Except FileFault FolderItem := match names path with
      | "" :: outside =>
        if outside.all fun n => n = "" ∨ n = "." ∨ n = ".." then .ok .directory
        else .error .missing
      | names => follow f [] names
    match found with
    | .error fault => .error fault
    | .ok .directory => .error .isDirectory
    | .ok (.file bytes) => .ok bytes

def readText (f : Folder) (path : String) : Except FileFault String :=
  match f.read path with
  | .error fault => .error fault
  | .ok bytes => match String.fromUTF8? (ByteArray.mk bytes.toArray) with
    | some s => .ok s
    | none => .error .notText

end Folder

end CatalogMigration
