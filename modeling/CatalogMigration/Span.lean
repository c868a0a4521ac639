import CatalogMigration.Numeral.Shortest

namespace CatalogMigration

structure Span where
  nanos : Nat
deriving DecidableEq, Repr

namespace Span

def perSecond : Nat := 1000000000

def ofParts (seconds nanos : Nat) : Span := ⟨seconds * perSecond + nanos⟩

def ofSeconds (seconds : Nat) : Span := ofParts seconds 0

def zero : Span := ⟨0⟩

def seconds (s : Span) : Nat := s.nanos / perSecond

def subsecond (s : Span) : Nat := s.nanos % perSecond

def secondsBound : Nat := Nat.pow 2 64

def fractional (whole rest places : Nat) : List Char :=
  let digits := Numeral.padded places (Numeral.decimal rest)
  let kept := (digits.reverse.dropWhile (· = '0')).reverse
  Numeral.decimal whole ++ (if kept.isEmpty then [] else '.' :: kept)

def text (s : Span) : List Char :=
  let n := s.subsecond
  if 0 < s.seconds then fractional s.seconds n 9 ++ ['s']
  else if 1000000 ≤ n then fractional (n / 1000000) (n % 1000000) 6 ++ ['m', 's']
  else if 1000 ≤ n then fractional (n / 1000) (n % 1000) 3 ++ ['µ', 's']
  else Numeral.decimal n ++ ['n', 's']

def display (s : Span) : String := String.ofList s.text

inductive OfSecondsError
  | negative
  | tooLarge
deriving DecidableEq, Repr

namespace OfSecondsError

def message : OfSecondsError → String
  | .negative => "cannot convert float seconds to Duration: value is negative"
  | .tooLarge =>
    "cannot convert float seconds to Duration: value is either too big or NaN"

end OfSecondsError

/-- The nearest number of nanoseconds, a half to the even one. -/
def ofDouble (x : Numeral.Double) : Except OfSecondsError Span :=
  if x.negative && !x.isNaN && !x.isZero then .error .negative
  else if x.isNaN || x.isInfinite then .error .tooLarge
  else
    let (n, d) := Numeral.Binary.inUnits x.significand 1 (-x.scale)
    let nanos := Numeral.Binary.roundedQuotient (n * perSecond) d
    if n / d < secondsBound ∧ nanos < secondsBound * perSecond then .ok ⟨nanos⟩
    else .error .tooLarge

end Span

end CatalogMigration
