namespace CatalogMigration.Command

/-- How a command line is met that names no work to do. -/
inductive Deviation
  | version
  | usage
deriving DecidableEq, Repr

structure Arguments where
  options : List (String × String)
  positions : List String
deriving DecidableEq, Repr

structure Shape where
  options : List (String × (String → Bool))
  positions : List (String → Bool)

namespace Arguments

def empty : Arguments := ⟨[], []⟩

def option? (a : Arguments) (name : String) : Option String := a.options.lookup name

def withOption (shape : Shape) (a : Arguments) (name value : String) :
    Except Deviation Arguments :=
  match shape.options.lookup name with
  | none => .error .usage
  | some fits =>
    if (a.option? name).isSome || !fits value then .error .usage
    else .ok { a with options := a.options ++ [(name, value)] }

def withPosition (shape : Shape) (a : Arguments) (value : String) :
    Except Deviation Arguments :=
  match shape.positions[a.positions.length]? with
  | none => .error .usage
  | some fits =>
    if fits value then .ok { a with positions := a.positions ++ [value] } else .error .usage

def withPositions (shape : Shape) : Arguments → List String → Except Deviation Arguments
  | a, [] => .ok a
  | a, value :: rest => do withPositions shape (← a.withPosition shape value) rest

def long? (arg : String) : Option (String × Option String) :=
  match arg.toList with
  | '-' :: '-' :: cs =>
    let (name, rest) := cs.span (· ≠ '=')
    some (String.ofList name,
      match rest with
      | [] => none
      | _ :: value => some (String.ofList value))
  | _ => none

def isFlag (arg : String) : Bool :=
  match arg.toList with
  | '-' :: _ :: _ => true
  | _ => false

def read (shape : Shape) : Arguments → List String → Except Deviation Arguments
  | a, [] => .ok a
  | a, "--" :: rest => a.withPositions shape rest
  | _, "--version" :: _ => .error .version
  | a, arg :: rest =>
    match long? arg with
    | some (name, some value) => do read shape (← a.withOption shape name value) rest
    | some (name, none) =>
      match rest with
      | value :: rest =>
        if isFlag value then .error .usage
        else do read shape (← a.withOption shape name value) rest
      | [] => .error .usage
    | none =>
      if arg.startsWith "-V" then .error .version
      else if isFlag arg then .error .usage
      else do read shape (← a.withPosition shape arg) rest

def ofList (shape : Shape) (args : List String) : Except Deviation Arguments := do
  let a ← read shape empty args
  if a.positions.length = shape.positions.length then return a else throw .usage

end Arguments

end CatalogMigration.Command
