import CatalogMigration.Numeral.Binary

namespace CatalogMigration.Numeral

def digitRun (cs : List Char) : List Char × List Char := (cs.takeWhile isDigit, cs.dropWhile isDigit)

def sign? : List Char → Bool × List Char
  | '-' :: cs => (true, cs)
  | '+' :: cs => (false, cs)
  | cs => (false, cs)

def exponent? (cs : List Char) : Option Int :=
  let (negative, cs) := sign? cs
  (value? 10 cs).map fun n => if negative then -n else n

def lowered (c : Char) : Char := if 'A' ≤ c && c ≤ 'Z' then Char.ofNat (c.toNat + 32) else c

def word? (l : Layout) (negative : Bool) (cs : List Char) : Option (Binary l) :=
  match String.ofList (cs.map lowered) with
  | "inf" | "infinity" => some (.infinity l negative)
  | "nan" => some (.nan l)
  | _ => none

def number? (l : Layout) (cs : List Char) : Option (Binary l) :=
  let (negative, cs) := sign? cs
  let (whole, rest) := digitRun cs
  let (fraction, rest) := match rest with
    | '.' :: rest => digitRun rest
    | _ => ([], rest)
  match value? 10 (whole ++ fraction) with
  | none => word? l negative cs
  | some digits =>
    let finish (e : Int) := Binary.ofDecimal l negative digits (e - fraction.length)
    match rest with
    | [] => some (finish 0)
    | 'e' :: rest | 'E' :: rest => (exponent? rest).map finish
    | _ => none

def single? (s : String) : Option Single := number? .single s.toList

end CatalogMigration.Numeral
