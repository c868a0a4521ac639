import CatalogMigration.Numeral.Reader
import CatalogMigration.Numeral.Shortest
import CatalogMigration.Text.Grid
import CatalogMigration.Text.Quoted

namespace CatalogMigration

open Numeral

inductive SettingValue
  | text (s : String)
  | truth (b : Bool)
  | unsigned (n : Nat)
  | signed (n : Int)
  | float (x : Double)
  | list
  | table
  | absent
deriving DecidableEq

namespace SettingValue

def diagnostic : SettingValue → String
  | .text s => "string " ++ Text.quoted s
  | .truth b => "bool " ++ Text.truth b
  | .unsigned n => "unsigned int \x60" ++ decimalText n ++ "\x60"
  | .signed n => "signed int \x60" ++ signedText n ++ "\x60"
  | .float x => "float \x60" ++ String.ofList (Style.plain.render x) ++ "\x60"
  | .list => "sequence"
  | .table => "map"
  | .absent => "unit"

open Text

def isSkipped (c : Char) : Bool :=
  c == ' ' || c == '\t' || c == '\n' || c == '\r' || c == '\x0c'

def skip (cs : List Char) : List Char := cs.dropWhile isSkipped

def isSeparator (c : Char) : Bool :=
  c == ',' || c == '\x7b' || c == '\x7d' || c == '[' || c == ']'

def isKeyChar (c : Char) : Bool := c.isAlphanum || c == '_' || c == '-'

/-- A number with a point is a float. Without one it is unsigned or signed if it fits 64 bits. -/
def plain (cs : List Char) : SettingValue :=
  let integer? : Option SettingValue := do
    let (negative, digits) := sign? cs
    let n ← value? 10 digits
    if negative then if n ≤ Nat.pow 2 63 then some (.signed (-n)) else none
    else if n < Nat.pow 2 64 then some (.unsigned n) else none
  match if cs.contains '.' then number? .double cs else none with
  | some x => .float x
  | none => integer?.getD (.text (String.ofList cs))

def quotedRun : List Char → Option (List Char × List Char)
  | [] => none
  | '"' :: cs => some ([], cs)
  | '\\' :: c :: cs => (quotedRun cs).map fun (run, rest) => ('\\' :: c :: run, rest)
  | c :: cs => (quotedRun cs).map fun (run, rest) => (c :: run, rest)

def escaped? : Char → Option Char
  | '"' => some '"'
  | '\\' => some '\\'
  | 'b' => some '\x08'
  | 'f' => some '\x0c'
  | 'n' => some '\n'
  | 'r' => some '\r'
  | 't' => some '\t'
  | _ => none

def character? (n : Nat) : Option Char := if n.isValidChar then some (Char.ofNat n) else none

def unescaped? : List Char → Option (List Char)
  | [] => some []
  | '\\' :: 'u' :: a :: b :: c :: d :: cs => do
    let x ← (value? 16 [a, b, c, d]).bind character?
    (unescaped? cs).map (x :: ·)
  | '\\' :: 'U' :: a :: b :: c :: d :: e :: f :: g :: h :: cs => do
    let x ← (value? 16 [a, b, c, d, e, f, g, h]).bind character?
    (unescaped? cs).map (x :: ·)
  | '\\' :: c :: cs => do
    let x ← escaped? c
    (unescaped? cs).map (x :: ·)
  | c :: cs =>
    if c = '\\' ∨ c = '\x7f' ∨ (c.toNat < 0x20 ∧ c ≠ '\t') then none
    else (unescaped? cs).map (c :: ·)

def readQuoted (cs : List Char) : Option (SettingValue × List Char) := do
  let (run, rest) ← quotedRun cs
  let text ← unescaped? run
  return (.text (String.ofList text), rest)

def skipKey (cs : List Char) : Option (List Char) :=
  let afterName : Option (List Char) := match skip cs with
    | '"' :: cs => (readQuoted cs).map Prod.snd
    | cs => if cs.head?.any isKeyChar then some (cs.dropWhile isKeyChar) else none
  afterName.bind fun rest => match skip rest with
    | '=' :: rest => some rest
    | _ => none

def word? (cs : List Char) : Option (Bool × List Char) :=
  match cs with
  | 't' :: 'r' :: 'u' :: 'e' :: rest => some (true, rest)
  | 'f' :: 'a' :: 'l' :: 's' :: 'e' :: rest => some (false, rest)
  | _ => none

mutual

def readValue : Nat → List Char → Option (SettingValue × List Char)
  | 0, _ => none
  | fuel + 1, cs =>
    let cs := skip cs
    let read : Option (SettingValue × List Char) := match word? cs with
      | some (b, rest) => some (.truth b, rest)
      | none => match cs with
        | '\x7b' :: rest => (skipEntries fuel true rest).map (SettingValue.table, ·)
        | '[' :: rest => (skipEntries fuel false rest).map (SettingValue.list, ·)
        | '"' :: rest => readQuoted rest
        | '\'' :: c :: '\'' :: rest => some (.text (String.ofList [c]), rest)
        | '\'' :: _ => none
        | cs =>
          let (run, rest) := cs.span (!isSeparator ·)
          some (plain (trimmed run), rest)
    read.map fun (v, rest) => (v, skip rest)

def skipEntries : Nat → Bool → List Char → Option (List Char)
  | 0, _, _ => none
  | fuel + 1, isTable, cs =>
    let close := if isTable then '\x7d' else ']'
    match cs with
    | [] => none
    | c :: rest =>
      if c = close then some rest
      else do
        let start ← if isTable then skipKey cs else some cs
        let (_, rest) ← readValue fuel start
        match rest with
        | ',' :: rest => skipEntries fuel isTable rest
        | c :: rest => if c = close then some rest else none
        | [] => none

end

/-- Every step takes a character or ends, so a text's length bounds the steps. -/
def read (cs : List Char) : SettingValue :=
  match readValue (2 * cs.length + 2) cs with
  | some (v, []) => v
  | _ => .text (String.ofList cs)

def ofText (s : String) : SettingValue := read s.toList

end SettingValue

end CatalogMigration
