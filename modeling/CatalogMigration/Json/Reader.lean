import CatalogMigration.Json.Basic
import CatalogMigration.Numeral.Reader

namespace CatalogMigration.Json

open Numeral

def isBlank (c : Char) : Bool := c == ' ' || c == '\n' || c == '\r' || c == '\t'

def skipBlanks (cs : List Char) : List Char := cs.dropWhile isBlank

inductive Piece
  | char (c : Char)
  | unit (n : Nat)
deriving DecidableEq, Repr

def simpleEscape? : Char → Option Char
  | '"' => some '"'
  | '\\' => some '\\'
  | '/' => some '/'
  | 'b' => some '\x08'
  | 'f' => some '\x0c'
  | 'n' => some '\n'
  | 'r' => some '\r'
  | 't' => some '\t'
  | _ => none

def pieces : List Char → Option (List Piece × List Char)
  | [] => none
  | '"' :: cs => some ([], cs)
  | '\\' :: 'u' :: a :: b :: c :: d :: cs =>
    match value? 16 [a, b, c, d] with
    | none => none
    | some n => (pieces cs).map fun (ps, rest) => (.unit n :: ps, rest)
  | '\\' :: e :: cs =>
    match simpleEscape? e with
    | none => none
    | some c => (pieces cs).map fun (ps, rest) => (.char c :: ps, rest)
  | c :: cs =>
    if c.toNat < 0x20 ∨ c = '\\' then none
    else (pieces cs).map fun (ps, rest) => (.char c :: ps, rest)

def isHighHalf (n : Nat) : Bool := 0xd800 ≤ n && n < 0xdc00

def isLowHalf (n : Nat) : Bool := 0xdc00 ≤ n && n < 0xe000

/-- The characters of the pieces, unless half a pair stands alone. -/
def joined? : List Piece → Option (List Char)
  | [] => some []
  | .char c :: ps => (joined? ps).map (c :: ·)
  | .unit a :: .unit b :: ps =>
    if isHighHalf a then
      if isLowHalf b then
        (joined? ps).map (Char.ofNat (0x10000 + (a - 0xd800) * 0x400 + (b - 0xdc00)) :: ·)
      else none
    else if isLowHalf a then none
    else (joined? (.unit b :: ps)).map (Char.ofNat a :: ·)
  | .unit a :: ps =>
    if isHighHalf a || isLowHalf a then none else (joined? ps).map (Char.ofNat a :: ·)

def ofPieces (ps : List Piece) : Json :=
  match joined? ps with
  | some cs => .text (String.ofList cs)
  | none => .broken

def ofNames (members : List (Option String × Json)) : Json :=
  match members.mapM fun m => m.1.map (·, m.2) with
  | some members => .object members
  | none => .broken

def wholePart? (cs : List Char) : Option (List Char × List Char) :=
  match digitRun cs with
  | ([], _) => none
  | ('0' :: _ :: _, _) => none
  | run => some run

def fractionPart? : List Char → Option (List Char × List Char)
  | '.' :: cs => match digitRun cs with
    | ([], _) => none
    | run => some run
  | cs => some ([], cs)

def exponentPart? : List Char → Option (Option Int × List Char)
  | e :: cs =>
    if e = 'e' ∨ e = 'E' then
      let (negative, cs) := sign? cs
      let (digits, rest) := digitRun cs
      (value? 10 digits).map fun n => (some (if negative then -n else n), rest)
    else some (none, e :: cs)
  | [] => some (none, [])

/-- A whole number within the range of 64-bit integers, signed or not, is an integer, any other
number a double. -/
def readNumber? (negative : Bool) (cs : List Char) : Option (JsonNumber × List Char) := do
  let (whole, rest) ← wholePart? cs
  let (fraction, rest) ← fractionPart? rest
  let (exponent, rest) ← exponentPart? rest
  let digits ← value? 10 (whole ++ fraction)
  let float := JsonNumber.float
    (.ofDecimal .double negative digits (exponent.getD 0 - fraction.length))
  let isWhole := fraction.isEmpty && exponent.isNone
  let fits := if negative then 0 < digits && digits ≤ Nat.pow 2 63 else digits < Nat.pow 2 64
  return (if isWhole && fits then .integer (if negative then -digits else digits) else float, rest)

def literal? (word : List Char) (cs : List Char) : Option (List Char) :=
  if word.isPrefixOf cs then some (cs.drop word.length) else none

mutual

def readValue : Nat → List Char → Option (Json × List Char)
  | 0, _ => none
  | fuel + 1, cs =>
    match skipBlanks cs with
    | 'n' :: cs => (literal? ['u', 'l', 'l'] cs).map (.null, ·)
    | 't' :: cs => (literal? ['r', 'u', 'e'] cs).map (.bool true, ·)
    | 'f' :: cs => (literal? ['a', 'l', 's', 'e'] cs).map (.bool false, ·)
    | '"' :: cs => (pieces cs).map fun (ps, rest) => (ofPieces ps, rest)
    | '[' :: cs =>
      match skipBlanks cs with
      | ']' :: rest => some (.array [], rest)
      | _ => (readItems fuel cs).map fun (items, rest) => (.array items, rest)
    | '\x7b' :: cs =>
      match skipBlanks cs with
      | '\x7d' :: rest => some (.object [], rest)
      | _ => (readMembers fuel cs).map fun (members, rest) => (ofNames members, rest)
    | '-' :: cs => (readNumber? true cs).map fun (n, rest) => (.number n, rest)
    | cs => (readNumber? false cs).map fun (n, rest) => (.number n, rest)

def readItems : Nat → List Char → Option (List Json × List Char)
  | 0, _ => none
  | fuel + 1, cs => do
    let (item, rest) ← readValue fuel cs
    match skipBlanks rest with
    | ']' :: rest => some ([item], rest)
    | ',' :: rest => (readItems fuel rest).map fun (items, rest) => (item :: items, rest)
    | _ => none

def readMembers : Nat → List Char → Option (List (Option String × Json) × List Char)
  | 0, _ => none
  | fuel + 1, cs =>
    match skipBlanks cs with
    | '"' :: cs => do
      let (ps, rest) ← pieces cs
      let name := (joined? ps).map String.ofList
      match skipBlanks rest with
      | ':' :: rest =>
        let (value, rest) ← readValue fuel rest
        match skipBlanks rest with
        | '\x7d' :: rest => some ([(name, value)], rest)
        | ',' :: rest =>
          (readMembers fuel rest).map fun (members, rest) => ((name, value) :: members, rest)
        | _ => none
      | _ => none
    | _ => none

end

/-- Every step takes a character or ends, so a text's length bounds the steps. -/
def read? (cs : List Char) : Option Json :=
  match readValue (2 * cs.length + 2) cs with
  | some (j, rest) => if (skipBlanks rest).isEmpty then some j else none
  | none => none

def ofText? (s : String) : Option Json := read? s.toList

end CatalogMigration.Json
