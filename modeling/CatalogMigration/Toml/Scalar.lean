import CatalogMigration.Numeral.Reader
import CatalogMigration.Toml.Basic
import CatalogMigration.Toml.Writer

namespace CatalogMigration.Toml

open Numeral

def isDigitIn (base : Nat) (c : Char) : Bool := (digitValue? base c).isSome

def digitGroups (base : Nat) : List Char → Option (List Char × List Char)
  | [] => none
  | c :: '_' :: cs =>
    if isDigitIn base c then (digitGroups base cs).map fun (ds, rest) => (c :: ds, rest) else none
  | c :: cs =>
    if isDigitIn base c then
      match digitGroups base cs with
      | some (ds, rest) => some (c :: ds, rest)
      | none => some ([c], cs)
    else none

def wholeDigits : List Char → Option (List Char × List Char)
  | '0' :: cs => some (['0'], cs)
  | cs => digitGroups 10 cs

def inRange (n : Int) : Option Int :=
  if -(Nat.pow 2 63 : Int) ≤ n ∧ n < (Nat.pow 2 63 : Int) then some n else none

def based (base : Nat) (cs : List Char) : Option (Toml × List Char) := do
  let (digits, rest) ← digitGroups base cs
  let n ← (value? base digits).bind fun n => inRange n
  return (.integer n, rest)

def fractionDigits? : List Char → Option (List Char × List Char)
  | '.' :: cs => digitGroups 10 cs
  | _ => none

def exponentDigits? : List Char → Option (Int × List Char)
  | e :: cs =>
    if e = 'e' ∨ e = 'E' then do
      let (negative, cs) := sign? cs
      let (digits, rest) ← digitGroups 10 cs
      let n ← value? 10 digits
      return (if negative then -n else n, rest)
    else none
  | [] => none

/-- A float has a fraction, an exponent or both. Too large a positive one is refused. -/
def float? (negative : Bool) (whole rest : List Char) : Option (Toml × List Char) := do
  let (fraction, rest') := (fractionDigits? rest).getD ([], rest)
  let (exponent, rest'') := (exponentDigits? rest').getD (0, rest')
  if rest''.length = rest.length then none
  else
    let digits ← value? 10 (whole ++ fraction)
    let x := Binary.ofDecimal .double negative digits (exponent - fraction.length)
    if x.isInfinite && !negative then none else some (.float x, rest'')

def word? (word : List Char) (cs : List Char) : Option (List Char) :=
  if word.isPrefixOf cs then some (cs.drop word.length) else none

def notFinite? (negative : Bool) (cs : List Char) : Option (Toml × List Char) :=
  match word? ['i', 'n', 'f'] cs, word? ['n', 'a', 'n'] cs with
  | some rest, _ => some (.float (.infinity .double negative), rest)
  | none, some rest => some (.float (.nan .double), rest)
  | none, none => none

def number? (cs : List Char) : Option (Toml × List Char) :=
  match cs with
  | '0' :: 'x' :: rest => based 16 rest
  | '0' :: 'o' :: rest => based 8 rest
  | '0' :: 'b' :: rest => based 2 rest
  | cs =>
    let (negative, unsigned) := sign? cs
    match notFinite? negative unsigned with
    | some r => some r
    | none => do
      let (whole, rest) ← wholeDigits unsigned
      match float? negative whole rest with
      | some r => some r
      | none =>
        let n ← value? 10 whole
        let n ← inRange (if negative then -n else n)
        some (.integer n, rest)

def fixed? (count : Nat) (cs : List Char) : Option (Nat × List Char) :=
  let digits := cs.take count
  if digits.length = count ∧ digits.all isDigit then
    (value? 10 digits).map fun n => (n, cs.drop count)
  else none

def after? (c : Char) : List Char → Option (List Char)
  | x :: cs => if x = c then some cs else none
  | [] => none

def day? (cs : List Char) : Option (Day × List Char) := do
  let (year, rest) ← fixed? 4 cs
  let (month, rest) ← (after? '-' rest).bind (fixed? 2)
  let (day, rest) ← (after? '-' rest).bind (fixed? 2)
  if (Day.mk year month day).isValid then some (⟨year, month, day⟩, rest) else none

def nanoseconds (cs : List Char) : Nat × List Char :=
  match cs with
  | '.' :: cs =>
    match digitRun cs with
    | ([], _) => (0, '.' :: cs)
    | (digits, rest) =>
      let kept := digits.take 9
      (((value? 10 kept).getD 0) * Nat.pow 10 (9 - kept.length), rest)
  | cs => (0, cs)

def clock? (cs : List Char) : Option (Clock × List Char) := do
  let (hour, rest) ← fixed? 2 cs
  let (minute, rest) ← (after? ':' rest).bind (fixed? 2)
  let (second, rest) ← (after? ':' rest).bind (fixed? 2)
  let (nanosecond, rest) := nanoseconds rest
  if (Clock.mk hour minute second nanosecond).isValid then
    some (⟨hour, minute, second, nanosecond⟩, rest)
  else none

def offset? : List Char → Option (Offset × List Char)
  | 'Z' :: cs | 'z' :: cs => some (.utc, cs)
  | s :: cs =>
    if s = '+' ∨ s = '-' then do
      let (hours, rest) ← fixed? 2 cs
      let (minutes, rest) ← (after? ':' rest).bind (fixed? 2)
      let n : Int := hours * 60 + minutes
      if hours ≤ 23 ∧ minutes ≤ 59 then some (.minutes (if s = '-' then -n else n), rest) else none
    else none
  | [] => none

def isDelimiter (c : Char) : Bool := c = 'T' || c = 't' || c = ' '

def moment? (cs : List Char) : Option (Toml × List Char) :=
  match day? cs with
  | some (d, rest) =>
    let clock := if rest.head?.any isDelimiter then clock? (rest.drop 1) else none
    match clock with
    | none => some (.moment (.day d), rest)
    | some (c, rest) =>
      match offset? rest with
      | some (o, rest) => some (.moment (.full d c (some o)), rest)
      | none => some (.moment (.full d c none), rest)
  | none => (clock? cs).map fun (c, rest) => (.moment (.clock c), rest)

def escaped? : Char → Option Char
  | 'b' => some '\x08'
  | 't' => some '\t'
  | 'n' => some '\n'
  | 'f' => some '\x0c'
  | 'r' => some '\r'
  | '"' => some '"'
  | '\\' => some '\\'
  | _ => none

def character? (digits : List Char) : Option Char :=
  (value? 16 digits).bind fun n => if n.isValidChar then some (Char.ofNat n) else none

def isPlain (c : Char) : Bool := c = '\t' || !isControl c

def basicText : List Char → Option (List Char × List Char)
  | [] => none
  | '"' :: cs => some ([], cs)
  | '\\' :: 'u' :: a :: b :: c :: d :: cs => do
    let x ← character? [a, b, c, d]
    (basicText cs).map fun (t, rest) => (x :: t, rest)
  | '\\' :: 'U' :: a :: b :: c :: d :: e :: f :: g :: h :: cs => do
    let x ← character? [a, b, c, d, e, f, g, h]
    (basicText cs).map fun (t, rest) => (x :: t, rest)
  | '\\' :: c :: cs => do
    let x ← escaped? c
    (basicText cs).map fun (t, rest) => (x :: t, rest)
  | c :: cs =>
    if isPlain c && c ≠ '\\' then (basicText cs).map fun (t, rest) => (c :: t, rest)
    else none

def literalText : List Char → Option (List Char × List Char)
  | [] => none
  | '\'' :: cs => some ([], cs)
  | c :: cs =>
    if isPlain c then (literalText cs).map fun (t, rest) => (c :: t, rest) else none

def afterLineBreak? : List Char → Option (List Char)
  | '\n' :: cs => some cs
  | '\r' :: '\n' :: cs => some cs
  | _ => none

def isSpace (c : Char) : Bool := c = ' ' || c = '\t'

def skipSpaces (cs : List Char) : List Char := cs.dropWhile isSpace

def skipLines : List Char → List Char
  | '\r' :: '\n' :: cs => skipLines cs
  | c :: cs => if isSpace c || c = '\n' then skipLines cs else c :: cs
  | [] => []

/-- Up to two quotes belong to a long text, and as many may stand before its closing three. -/
def quoteRun (quote : Char) (cs : List Char) : Nat := (cs.takeWhile (· = quote)).length

def longBasicText : Nat → List Char → Option (List Char × List Char)
  | 0, _ => none
  | fuel + 1, cs =>
    let add (xs : List Char) (rest : List Char) : Option (List Char × List Char) :=
      (longBasicText fuel rest).map fun (t, rest) => (xs ++ t, rest)
    match cs with
    | [] => none
    | '"' :: _ =>
      let n := quoteRun '"' cs
      let rest := cs.drop n
      if n < 3 then add (List.replicate n '"') rest
      else if n < 6 then some (List.replicate (n - 3) '"', rest)
      else none
    | '\\' :: 'u' :: a :: b :: c :: d :: rest => do add [← character? [a, b, c, d]] rest
    | '\\' :: 'U' :: a :: b :: c :: d :: e :: f :: g :: h :: rest => do
      add [← character? [a, b, c, d, e, f, g, h]] rest
    | '\\' :: rest =>
      match afterLineBreak? (skipSpaces rest), rest with
      | some rest, _ => add [] (skipLines rest)
      | none, c :: rest => do add [← escaped? c] rest
      | none, [] => none
    | '\r' :: '\n' :: rest => add ['\n'] rest
    | c :: rest => if isPlain c || c = '\n' then add [c] rest else none

def longLiteralText : Nat → List Char → Option (List Char × List Char)
  | 0, _ => none
  | fuel + 1, cs =>
    let add (xs : List Char) (rest : List Char) : Option (List Char × List Char) :=
      (longLiteralText fuel rest).map fun (t, rest) => (xs ++ t, rest)
    match cs with
    | [] => none
    | '\'' :: _ =>
      let n := quoteRun '\'' cs
      let rest := cs.drop n
      if n < 3 then add (List.replicate n '\'') rest
      else if n < 6 then some (List.replicate (n - 3) '\'', rest)
      else none
    | '\r' :: '\n' :: rest => add ['\n'] rest
    | c :: rest => if isPlain c || c = '\n' then add [c] rest else none

def withoutFirstBreak (cs : List Char) : List Char := (afterLineBreak? cs).getD cs

def text? : List Char → Option (List Char × List Char)
  | '"' :: '"' :: '"' :: cs => longBasicText (cs.length + 1) (withoutFirstBreak cs)
  | '\'' :: '\'' :: '\'' :: cs => longLiteralText (cs.length + 1) (withoutFirstBreak cs)
  | '"' :: cs => basicText cs
  | '\'' :: cs => literalText cs
  | _ => none

def scalar? (cs : List Char) : Option (Toml × List Char) :=
  match cs with
  | '"' :: _ | '\'' :: _ => (text? cs).map fun (t, rest) => (.text (String.ofList t), rest)
  | 't' :: 'r' :: 'u' :: 'e' :: rest => some (.truth true, rest)
  | 'f' :: 'a' :: 'l' :: 's' :: 'e' :: rest => some (.truth false, rest)
  | cs => match moment? cs with
    | some r => some r
    | none => number? cs

end CatalogMigration.Toml
