import CatalogMigration.Numeral.Digits
import CatalogMigration.Text.Grid

namespace CatalogMigration.Url

open Numeral Text

/-- A part of a four-byte address. A leading zero means base eight, `0x` base sixteen. -/
def addressPart? (cs : List Char) : Option Nat :=
  match cs with
  | [] => none
  | '0' :: 'x' :: rest | '0' :: 'X' :: rest => if rest.isEmpty then some 0 else value? 16 rest
  | '0' :: d :: rest => value? 8 (d :: rest)
  | cs => value? 10 cs

def endsInNumber (cs : List Char) : Bool :=
  let parts := (splitOn '.' cs).reverse
  let last? := match parts with
    | [] :: last :: _ => some last
    | [] :: [] => none
    | last :: _ => some last
    | [] => none
  match last? with
  | none => false
  | some last => !last.isEmpty && last.all isDigit || (addressPart? last).isSome

def fourBytes? (cs : List Char) : Option Nat := do
  let parts := splitOn '.' cs
  let parts := if parts.getLast? = some [] then parts.dropLast else parts
  if 4 < parts.length then none
  else
    let numbers ← parts.mapM addressPart?
    let last ← numbers.getLast?
    let before := numbers.dropLast
    if before.any (255 < ·) || Nat.pow 256 (4 - before.length) ≤ last then none
    else some (before.zipIdx.foldr (fun (n, i) sum => n * Nat.pow 256 (3 - i) + sum) last)

def writeFourBytes (n : Nat) : List Char :=
  joinedWith ['.'] ([16777216, 65536, 256, 1].map fun u => decimal (n / u % 256))

def addressPiece? (cs : List Char) : Option Nat := if 4 < cs.length then none else value? 16 cs

def plainByte? (cs : List Char) : Option Nat :=
  match cs with
  | '0' :: _ :: _ => none
  | cs => if cs.all isDigit then (value? 10 cs).filter (· ≤ 255) else none

def pieces? (cs : List Char) : Option (List Nat) :=
  if cs.isEmpty then some []
  else
    let parts := splitOn ':' cs
    let last := parts.getLast?.getD []
    if last.contains '.' then do
      let front ← parts.dropLast.mapM addressPiece?
      match splitOn '.' last with
      | [a, b, c, d] =>
        some (front ++ [(← plainByte? a) * 256 + (← plainByte? b), (← plainByte? c) * 256 + (← plainByte? d)])
      | _ => none
    else parts.mapM addressPiece?

def gap? : List Char → Option (List Char × List Char)
  | ':' :: ':' :: rest => some ([], rest)
  | c :: rest => (gap? rest).map fun (before, after) => (c :: before, after)
  | [] => none

/-- Eight pieces; a double colon stands for at least one piece of zero. -/
def eightPieces? (cs : List Char) : Option (List Nat) :=
  match gap? cs with
  | none => (pieces? cs).filter (·.length = 8)
  | some (before, after) => do
    if before.contains '.' then none
    else
      let front ← pieces? before
      let back ← pieces? after
      let missing := 8 - (front.length + back.length)
      if missing = 0 then none else some (front ++ List.replicate missing 0 ++ back)

def longestZeros : List Nat → Nat × Nat
  | [] => (0, 0)
  | n :: ns =>
    let run := ((n :: ns).takeWhile (· = 0)).length
    let (start, length) := longestZeros ns
    if length ≤ run then (0, run) else (start + 1, length)

def writeEightPieces (ns : List Nat) : List Char :=
  let (start, length) := longestZeros ns
  let hex (ns : List Nat) := joinedWith [':'] (ns.map hexadecimal)
  if length < 2 then hex ns
  else hex (ns.take start) ++ ':' :: ':' :: hex (ns.drop (start + length))

end CatalogMigration.Url
