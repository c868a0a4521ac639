import CatalogMigration.Numeral.Binary

namespace CatalogMigration.Numeral

inductive Tie
  | up
  | even
deriving DecidableEq, Repr

structure Scientific where
  digits : Nat
  exponent : Int
deriving DecidableEq, Repr

namespace Binary

variable {l : Layout}

/-- The reals that round to a positive number, in quarters of its last place, and whether the
ends belong to them. -/
def interval (b : Binary l) : Nat × Nat × Bool :=
  let m := b.significand
  let low := if b.fraction = 0 && 1 < b.exponentField then 4 * m - 1 else 4 * m - 2
  (low, 4 * m + 2, m % 2 = 0)

def crossed (n : Nat) (k : Int) (d : Nat) (e : Int) : Nat × Nat :=
  let n := if 0 ≤ k then n * Nat.pow 2 k.toNat else n
  let d := if 0 ≤ k then d else d * Nat.pow 2 (-k).toNat
  if 0 ≤ e then (n, d * Nat.pow 10 e.toNat) else (n * Nat.pow 10 (-e).toNat, d)

def readsBack (b : Binary l) (d : Nat) (e : Int) : Bool :=
  let (low, high, closed) := b.interval
  let k := b.scale - 2
  let (lowN, lowD) := crossed low k d e
  let (highN, highD) := crossed high k d e
  if closed then lowN ≤ lowD && highD ≤ highN else lowN < lowD && highD < highN

/-- The number's neighbours on the grid of multiples of `10 ^ e`: the one that reads back, of
two the nearer. -/
def onGrid? (tie : Tie) (b : Binary l) (e : Int) : Option Nat :=
  let (n, d) := crossed b.significand b.scale 1 e
  let below := n / d
  match b.readsBack below e, b.readsBack (below + 1) e with
  | false, false => none
  | true, false => some below
  | false, true => some (below + 1)
  | true, true =>
    let twice := 2 * (n % d)
    if twice < d then some below
    else if d < twice then some (below + 1)
    else match tie with
      | .up => some (below + 1)
      | .even => some (if below % 2 = 0 then below else below + 1)

/-- Ever finer grids, from `10 ^ e` down. -/
def search (tie : Tie) (b : Binary l) : Nat → Int → Scientific
  | 0, e => ⟨(b.onGrid? tie e).getD 0, e⟩
  | n + 1, e =>
    match b.onGrid? tie e with
    | some (d + 1) => ⟨d + 1, e⟩
    | _ => search tie b n (e - 1)

def trimmed (d : Nat) (e : Int) : Scientific :=
  if h : d ≠ 0 ∧ d % 10 = 0 then trimmed (d / 10) (e + 1) else ⟨d, e⟩
termination_by d
decreasing_by omega

def coarsest (b : Binary l) : Int :=
  let top : Int := Nat.log2 b.significand + b.scale + 1
  (top * 30103) / 100000 + 1

def shortest (tie : Tie) (b : Binary l) : Scientific :=
  let s := search tie b 25 b.coarsest
  trimmed s.digits s.exponent

end Binary

/-- How a style writes a number: the places of the point (counted from the first digit)
between which it is positional, whether a whole number keeps one zero after the point, and the
digit a tie goes to. -/
structure Style where
  tie : Tie
  leastPoint : Option Int
  greatestPoint : Option Int
  wholeZero : Bool
deriving DecidableEq, Repr

namespace Style

def diagnostic : Style := ⟨.up, some (-3), some 16, true⟩

def plain : Style := ⟨.up, none, none, false⟩

def tableSingle : Style := ⟨.even, some (-5), some 13, true⟩

def documentDouble : Style := ⟨.even, some (-4), some 16, true⟩

def isPositional (s : Style) (point : Int) : Bool :=
  s.leastPoint.all (· ≤ point) && s.greatestPoint.all (point ≤ ·)

def positional (s : Style) (digits : List Char) (point : Int) : List Char :=
  let zeros (n : Int) := List.replicate n.toNat '0'
  if point ≤ 0 then '0' :: '.' :: zeros (-point) ++ digits
  else if point < digits.length then
    digits.take point.toNat ++ '.' :: digits.drop point.toNat
  else digits ++ zeros (point - digits.length) ++ (if s.wholeZero then ['.', '0'] else [])

def exponential (digits : List Char) (point : Int) : List Char :=
  let mantissa := match digits with
    | d :: [] => [d]
    | d :: rest => d :: '.' :: rest
    | [] => []
  mantissa ++ 'e' :: signed (point - 1)

def render {l : Layout} (s : Style) (b : Binary l) : List Char :=
  if b.isNaN then ['N', 'a', 'N']
  else
    let body :=
      if b.isInfinite then ['i', 'n', 'f']
      else if b.isZero then '0' :: (if s.wholeZero then ['.', '0'] else [])
      else
        let d := b.shortest s.tie
        let digits := decimal d.digits
        let point := digits.length + d.exponent
        if s.isPositional point then s.positional digits point else exponential digits point
    if b.negative then '-' :: body else body

end Style

end CatalogMigration.Numeral
