import CatalogMigration.Text.Grid
import CatalogMigration.Text.Unprinted
import CatalogMigration.Url.Domain.Composition
import CatalogMigration.Url.Domain.Mapping
import CatalogMigration.Url.Domain.Punycode
import CatalogMigration.Url.Percent

namespace CatalogMigration.Url

open Text

def shift? (n : Nat) : Option Nat :=
  (shifts.find? fun s =>
    s.first ≤ n && n < s.first + s.count * s.step && (n - s.first) % s.step == 0).map
      fun s => (Int.ofNat n + s.distance).toNat

/-- Characters that keep their meaning though another mapping was once in use. -/
def isKept (c : Char) : Bool := [0xdf, 0x3c2, 0x200c, 0x200d].contains c.toNat

def mapped? (c : Char) : Option (List Char) :=
  let n := c.toNat
  if n < 0x80 then some [if 'A' ≤ c && c ≤ 'Z' then Char.ofNat (n + 32) else c]
  else if isKept c then some [c]
  else if among vanishing c then some []
  else if among refused c then none
  else match expansions.find? (·.1 = n), shift? n with
    | some (_, ns), _ => some (ns.map Char.ofNat)
    | none, some m => some [Char.ofNat m]
    | none, none => some [c]

def forbidden : List Char := ['%', '#', '/', ':', '<', '>', '?', '@', '[', '\\', ']', '^', '|']

def isForbidden (c : Char) : Bool := c.toNat ≤ 0x20 || c.toNat = 0x7f || forbidden.contains c

def isJoiner (c : Char) : Bool := c.toNat = 0x200c || c.toNat = 0x200d

def viramaClass : Nat := 9

def joinersFit : List Char → Bool
  | [] => true
  | [c] => !isJoiner c
  | a :: b :: cs =>
    !isJoiner a && (if isJoiner b then markClass a.toNat = viramaClass && joinersFit cs
      else joinersFit (b :: cs))

def isLabel (cs : List Char) : Bool :=
  (match cs with
    | c :: _ => !among extending c
    | [] => true) && joinersFit cs

def asciiLabel? (cs : List Char) : Option (List Char) :=
  match cs with
  | 'x' :: 'n' :: '-' :: '-' :: rest => do
    let decoded ← Punycode.decode? rest
    if rest.isEmpty || decoded.all (·.toNat < 0x80) || !isLabel decoded then none
    else if (← decoded.mapM mapped?).flatten = decoded && composed decoded = decoded then some cs
    else none
  | cs =>
    if cs.all (·.toNat < 0x80) then some cs
    else if isLabel cs then some ("xn--".toList ++ Punycode.encode cs)
    else none

def asciiDomain? (cs : List Char) : Option (List Char) := do
  let mapped := composed (← cs.mapM mapped?).flatten
  if mapped.any isForbidden then none
  else
    let labels ← (splitOn '.' mapped).mapM asciiLabel?
    some (joinedWith ['.'] labels)

end CatalogMigration.Url
