import CatalogMigration.Numeral.Digits

namespace CatalogMigration.Url.Punycode

def thresholdAt (k bias : Nat) : Nat :=
  if k ≤ bias + 1 then 1 else if bias + 26 ≤ k then 26 else k - bias

def adapt (distance count : Nat) (first : Bool) : Nat :=
  let d := if first then distance / 700 else distance / 2
  go 64 (d + d / count) 0
where
  go : Nat → Nat → Nat → Nat
    | 0, d, k => k + 36 * d / (d + 38)
    | fuel + 1, d, k => if 455 < d then go fuel (d / 35) (k + 36) else k + 36 * d / (d + 38)

def digit (d : Nat) : Char := Char.ofNat (if d < 26 then 97 + d else 22 + d)

def digitValue? (c : Char) : Option Nat :=
  let n := c.toNat
  if 97 ≤ n ∧ n ≤ 122 then some (n - 97)
  else if 65 ≤ n ∧ n ≤ 90 then some (n - 65)
  else if 48 ≤ n ∧ n ≤ 57 then some (n - 22)
  else none

def writeDistance : Nat → Nat → Nat → Nat → List Char
  | 0, _, _, _ => []
  | fuel + 1, q, k, bias =>
    let t := thresholdAt k bias
    if q < t then [digit q]
    else digit (t + (q - t) % (36 - t)) :: writeDistance fuel ((q - t) / (36 - t)) (k + 36) bias

structure State where
  delta : Nat
  bias : Nat
  placed : Nat
  out : List Char

/-- Places every occurrence of the character `n`, counting the smaller ones passed. -/
def placeAll (n basic : Nat) (cs : List Char) (s : State) : State :=
  cs.foldl (fun s c =>
    if c.toNat < n then { s with delta := s.delta + 1 }
    else if c.toNat = n then
      { delta := 0
        bias := adapt s.delta (s.placed + 1) (s.placed = basic)
        placed := s.placed + 1
        out := s.out ++ writeDistance 64 s.delta 36 s.bias }
    else s) s

def encodeFrom (basic : Nat) (cs : List Char) : Nat → List Nat → State → State
  | _, [], s => s
  | n, m :: ms, s =>
    let s := { s with delta := s.delta + (m - n) * (s.placed + 1) }
    let s := placeAll m basic cs s
    encodeFrom basic cs (m + 1) ms { s with delta := s.delta + 1 }

def encode (cs : List Char) : List Char :=
  let basic := cs.filter (·.toNat < 0x80)
  let others := ((cs.filter (0x80 ≤ ·.toNat)).map (·.toNat)).mergeSort.eraseDups
  let head := if basic.isEmpty then [] else basic ++ ['-']
  (encodeFrom basic.length cs 0x80 others ⟨0, 72, basic.length, head⟩).out

def readDistance : Nat → List Char → Nat → Nat → Nat → Option (Nat × List Char)
  | 0, _, _, _, _ => none
  | _ + 1, [], _, _, _ => none
  | fuel + 1, c :: cs, k, bias, weight => do
    let d ← digitValue? c
    let t := thresholdAt k bias
    if d < t then some (d * weight, cs)
    else
      let (n, rest) ← readDistance fuel cs (k + 36) bias (weight * (36 - t))
      some (d * weight + n, rest)

def decodeFrom : Nat → List Char → Nat → Nat → Nat → List Char → Option (List Char)
  | 0, _, _, _, _, _ => none
  | _ + 1, [], _, _, _, out => some out
  | fuel + 1, cs, n, i, bias, out => do
    let (d, rest) ← readDistance (cs.length + 1) cs 36 bias 1
    let count := out.length + 1
    let i' := i + d
    let n := n + i' / count
    let at' := i' % count
    if 0x10ffff < n ∨ (0xd800 ≤ n ∧ n < 0xe000) then none
    else
      decodeFrom fuel rest n (at' + 1) (adapt d count (i = 0))
        (out.take at' ++ Char.ofNat n :: out.drop at')

def decode? (cs : List Char) : Option (List Char) :=
  let back := cs.reverse
  let tail := (back.takeWhile (· ≠ '-')).reverse
  let head := ((back.dropWhile (· ≠ '-')).drop 1).reverse
  if cs.any (0x80 ≤ ·.toNat) then none
  else decodeFrom (cs.length + 1) tail 0x80 0 72 head

end CatalogMigration.Url.Punycode
