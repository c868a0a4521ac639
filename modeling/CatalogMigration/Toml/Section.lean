import CatalogMigration.Toml.Basic

namespace CatalogMigration.Toml

mutual

inductive Entry
  | value (v : Toml)
  | table (t : Section)
  | tables (ts : List Section)

/-- A table without a header of its own is implicit, and dotted if a dotted name brought it. -/
inductive Section
  | mk (isImplicit isDotted : Bool) (entries : List (String × Entry))

end

namespace Section

def isImplicit : Section → Bool
  | .mk i _ _ => i

def isDotted : Section → Bool
  | .mk _ d _ => d

def entries : Section → List (String × Entry)
  | .mk _ _ es => es

def entry? (s : Section) (name : String) : Option Entry := Named.get? s.entries name

def withEntry (s : Section) (name : String) (e : Entry) : Section :=
  .mk s.isImplicit s.isDotted (Named.insert s.entries name e)

def empty : Section := .mk false false []

/-- Changes the table at a path. Tables on the way are made if they are missing, and of several
the last one is meant. A dotted name does not go through a table with a header. -/
def within (dotted : Bool) (change : Section → Option Section) :
    List String → Section → Option Section
  | [], s => change s
  | name :: path, s =>
    match s.entry? name with
    | none => (within dotted change path (.mk true dotted [])).map (s.withEntry name <| .table ·)
    | some (.value _) | some (.tables []) => none
    | some (.tables (last :: others)) =>
      (within dotted change path last).map fun t => s.withEntry name (.tables (t :: others))
    | some (.table t) =>
      if dotted && !t.isImplicit then none
      else (within dotted change path t).map (s.withEntry name <| .table ·)

/-- One more value. A dotted name ends in a table made by dotted names, a plain one in a table
that is not. -/
def put (path : List String) (name : String) (v : Toml) : Section → Option Section :=
  within true (fun t =>
    if t.isDotted = path.isEmpty ∨ (t.entry? name).isSome then none
    else some (t.withEntry name (.value v))) path

def openTable (path : List String) (name : String) : Section → Option Section :=
  within false (fun t => match t.entry? name with
    | none => some (t.withEntry name (.table .empty))
    | some (.table (.mk true false es)) => some (t.withEntry name (.table (.mk false false es)))
    | some _ => none) path

def addTable (path : List String) (name : String) : Section → Option Section :=
  within false (fun t => match t.entry? name with
    | none => some (t.withEntry name (.tables [.empty]))
    | some (.tables ts) => some (t.withEntry name (.tables (.empty :: ts)))
    | some _ => none) path

end Section

mutual

def Section.toToml : Section → Toml
  | .mk _ _ es => .table (entryValues es)

def entryValues : List (String × Entry) → List (String × Toml)
  | [] => []
  | (name, e) :: es => (name, e.toToml) :: entryValues es

def Entry.toToml : Entry → Toml
  | .value v => v
  | .table t => t.toToml
  | .tables ts => .array (tableValues ts).reverse

def tableValues : List Section → List Toml
  | [] => []
  | t :: ts => t.toToml :: tableValues ts

end

inductive Statement
  | table (path : List String) (name : String)
  | tables (path : List String) (name : String)
  | pair (path : List String) (name : String) (value : Toml)

def ofPairs? (pairs : List (List String × String × Toml)) : Option Toml :=
  (pairs.foldlM (fun s (path, name, v) => Section.put path name v s) Section.empty).map Section.toToml

def Section.take : List String × Section → Statement → Option (List String × Section)
  | (_, s), .table path name => (s.openTable path name).map (path ++ [name], ·)
  | (_, s), .tables path name => (s.addTable path name).map (path ++ [name], ·)
  | (header, s), .pair path name v => (within false (put path name v) header s).map (header, ·)

def ofStatements? (statements : List Statement) : Option Toml :=
  (statements.foldlM Section.take ([], Section.empty)).map fun (_, s) => s.toToml

end CatalogMigration.Toml
