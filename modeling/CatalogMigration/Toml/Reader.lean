import CatalogMigration.Toml.Scalar
import CatalogMigration.Toml.Section

namespace CatalogMigration.Toml

/-- How many arrays and inline tables may hold one another, and how many parts a name may have. -/
def depthBound : Nat := 80

def skipComment : List Char → List Char
  | '#' :: cs => cs.dropWhile isPlain
  | cs => cs

def skipAll : Nat → List Char → List Char
  | 0, cs => cs
  | fuel + 1, cs =>
    match skipLines cs with
    | '#' :: rest => skipAll fuel (rest.dropWhile isPlain)
    | cs => cs

def namePart? (cs : List Char) : Option (String × List Char) :=
  let part := match cs with
    | '"' :: cs => basicText cs
    | '\'' :: cs => literalText cs
    | cs => if cs.head?.any isBare then some (cs.span isBare) else none
  part.map fun (t, rest) => (String.ofList t, rest)

def nameParts? : Nat → List Char → Option (List String × List Char)
  | 0, _ => none
  | fuel + 1, cs => do
    let (part, rest) ← namePart? (skipSpaces cs)
    match skipSpaces rest with
    | '.' :: rest => (nameParts? fuel rest).map fun (parts, rest) => (part :: parts, rest)
    | rest => some ([part], rest)

def name? (cs : List Char) : Option ((List String × String) × List Char) := do
  let (parts, rest) ← nameParts? (cs.length + 1) cs
  let last ← parts.getLast?
  if parts.length < depthBound then some ((parts.dropLast, last), rest) else none

mutual

def readValue : Nat → Nat → List Char → Option (Toml × List Char)
  | 0, _, _ => none
  | fuel + 1, depth, cs =>
    match cs with
    | '[' :: rest =>
      if depth + 1 < depthBound then
        (readItems fuel (depth + 1) rest).map fun (items, rest) => (.array items, rest)
      else none
    | '\x7b' :: rest =>
      if depth + 1 < depthBound then
        match skipSpaces rest with
        | '\x7d' :: rest => some (.table [], rest)
        | rest => do
          let (pairs, rest) ← readPairs fuel (depth + 1) rest
          (ofPairs? pairs).map (·, rest)
      else none
    | cs => scalar? cs

def readItems : Nat → Nat → List Char → Option (List Toml × List Char)
  | 0, _, _ => none
  | fuel + 1, depth, cs =>
    match skipAll cs.length cs with
    | ']' :: rest => some ([], rest)
    | cs => do
      let (item, rest) ← readValue fuel depth cs
      match skipAll rest.length rest with
      | ']' :: rest => some ([item], rest)
      | ',' :: rest => (readItems fuel depth rest).map fun (items, rest) => (item :: items, rest)
      | _ => none

def readPairs : Nat → Nat → List Char →
    Option (List (List String × String × Toml) × List Char)
  | 0, _, _ => none
  | fuel + 1, depth, cs => do
    let ((path, name), rest) ← name? cs
    match rest with
    | '=' :: rest =>
      let (value, rest) ← readValue fuel depth (skipSpaces rest)
      match skipSpaces rest with
      | '\x7d' :: rest => some ([(path, name, value)], rest)
      | ',' :: rest =>
        (readPairs fuel depth rest).map fun (pairs, rest) => ((path, name, value) :: pairs, rest)
      | _ => none
    | _ => none

end

def lineEnd? (cs : List Char) : Option (List Char) :=
  match skipComment (skipSpaces cs) with
  | [] => some []
  | cs => afterLineBreak? cs

def statement? (cs : List Char) : Option (Statement × List Char) := do
  match cs with
  | '[' :: '[' :: cs =>
    let ((path, name), rest) ← name? cs
    match rest with
    | ']' :: ']' :: rest => some (.tables path name, rest)
    | _ => none
  | '[' :: cs =>
    let ((path, name), rest) ← name? cs
    match rest with
    | ']' :: rest => some (.table path name, rest)
    | _ => none
  | cs =>
    let ((path, name), rest) ← name? cs
    match rest with
    | '=' :: rest =>
      let (value, rest) ← readValue (2 * rest.length + 2) 0 (skipSpaces rest)
      some (.pair path name value, rest)
    | _ => none

def statements? : Nat → List Char → Option (List Statement)
  | 0, _ => none
  | fuel + 1, cs =>
    match skipSpaces cs with
    | [] => some []
    | cs =>
      match cs.head? with
      | some '#' => (lineEnd? cs).bind (statements? fuel)
      | _ => match afterLineBreak? cs with
        | some rest => statements? fuel rest
        | none => do
          let (s, rest) ← statement? cs
          let rest ← lineEnd? rest
          (statements? fuel rest).map (s :: ·)

inductive ReadFault
  | malformed
  | inconsistent
deriving DecidableEq, Repr

def ReadFault.message : ReadFault → String
  | .malformed => "text outside the grammar"
  | .inconsistent => "a name is defined twice or is no table"

/-- A mark of the byte order in front does not count. -/
def withoutMark : List Char → List Char
  | '\ufeff' :: cs => cs
  | cs => cs

def read (cs : List Char) : Except ReadFault Toml :=
  match statements? (cs.length + 1) (withoutMark cs) with
  | none => .error .malformed
  | some statements =>
    match ofStatements? statements with
    | none => .error .inconsistent
    | some v => .ok v

def ofText (s : String) : Except ReadFault Toml := read s.toList

end CatalogMigration.Toml
