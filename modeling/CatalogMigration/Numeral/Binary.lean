import CatalogMigration.Numeral.Digits

namespace CatalogMigration.Numeral

structure Layout where
  fractionBits : Nat
  exponentBits : Nat
deriving DecidableEq, Repr

namespace Layout

def width (l : Layout) : Nat := 1 + l.exponentBits + l.fractionBits

def single : Layout := ⟨23, 8⟩

def double : Layout := ⟨52, 11⟩

def bias (l : Layout) : Int := Nat.pow 2 (l.exponentBits - 1) - 1

def leastScale (l : Layout) : Int := 1 - l.bias - l.fractionBits

def infinityBits (l : Layout) : Nat := (Nat.pow 2 l.exponentBits - 1) * Nat.pow 2 l.fractionBits

def signBit (l : Layout) : Nat := Nat.pow 2 (l.exponentBits + l.fractionBits)

end Layout

structure Binary (l : Layout) where
  bits : BitVec l.width
deriving DecidableEq

abbrev Single := Binary .single

abbrev Double := Binary .double

namespace Binary

variable {l : Layout}

def negative (b : Binary l) : Bool := b.bits.toNat / l.signBit % 2 == 1

def magnitude (b : Binary l) : Nat := b.bits.toNat % l.signBit

def fraction (b : Binary l) : Nat := b.magnitude % Nat.pow 2 l.fractionBits

def exponentField (b : Binary l) : Nat := b.magnitude / Nat.pow 2 l.fractionBits

def isNaN (b : Binary l) : Bool := l.infinityBits < b.magnitude

def isInfinite (b : Binary l) : Bool := b.magnitude == l.infinityBits

def isZero (b : Binary l) : Bool := b.magnitude == 0

/-- A finite number is `significand * 2 ^ scale`, up to its sign. -/
def significand (b : Binary l) : Nat :=
  if b.exponentField = 0 then b.fraction else Nat.pow 2 l.fractionBits + b.fraction

def scale (b : Binary l) : Int :=
  if b.exponentField = 0 then l.leastScale else l.leastScale + b.exponentField - 1

/-- Comparison of numbers: the two zeros are equal, and what is not a number equals nothing. -/
def same (a b : Binary l) : Bool :=
  !a.isNaN && !b.isNaN && (a.bits == b.bits || a.isZero && b.isZero)

def ofMagnitude (l : Layout) (negative : Bool) (m : Nat) : Binary l :=
  ⟨BitVec.ofNat l.width ((if negative then l.signBit else 0) + m)⟩

def nan (l : Layout) : Binary l :=
  ofMagnitude l false (l.infinityBits + Nat.pow 2 (l.fractionBits - 1))

def infinity (l : Layout) (negative : Bool) : Binary l := ofMagnitude l negative l.infinityBits

def zero (l : Layout) (negative : Bool) : Binary l := ofMagnitude l negative 0

/-- The quotient to the nearest integer, a half to the even neighbour. -/
def roundedQuotient (num den : Nat) : Nat :=
  let q := num / den
  let twice := 2 * (num % den)
  if den < twice ∨ (twice = den ∧ q % 2 = 1) then q + 1 else q

def inUnits (num den : Nat) (k : Int) : Nat × Nat :=
  if 0 ≤ k then (num, den * Nat.pow 2 k.toNat) else (num * Nat.pow 2 (-k).toNat, den)

/-- The number nearest to `num / den`. Rounding up carries into the exponent, and from the
greatest finite number to the infinity. -/
def ofRatio (l : Layout) (negative : Bool) (num den : Nat) : Binary l :=
  if num = 0 then zero l negative
  else
    let guess : Int := (Nat.log2 num : Int) - Nat.log2 den - 1 - l.fractionBits
    let (n, d) := inUnits num den guess
    let unit := max l.leastScale
      (if Nat.pow 2 (l.fractionBits + 1) ≤ n / d then guess + 1 else guess)
    let (n, d) := inUnits num den unit
    let word := (unit - l.leastScale).toNat * Nat.pow 2 l.fractionBits + roundedQuotient n d
    ofMagnitude l negative (min word l.infinityBits)

def ofDecimal (l : Layout) (negative : Bool) (digits : Nat) (exponent : Int) : Binary l :=
  if digits = 0 then zero l negative
  else if 5000 < exponent then infinity l negative
  else if exponent < -5000 - (Nat.log2 digits : Int) then zero l negative
  else if 0 ≤ exponent then ofRatio l negative (digits * Nat.pow 10 exponent.toNat) 1
  else ofRatio l negative digits (Nat.pow 10 (-exponent).toNat)

end Binary

end CatalogMigration.Numeral
