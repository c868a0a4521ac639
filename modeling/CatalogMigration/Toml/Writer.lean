import CatalogMigration.Text.Grid
import CatalogMigration.Toml.Basic

namespace CatalogMigration.Toml

open Numeral

def floatStyle : Style := ⟨.up, none, none, true⟩

def writeFloat (x : Double) : List Char :=
  if x.isNaN then ['n', 'a', 'n'] else floatStyle.render x

def isControl (c : Char) : Bool := c.toNat < 0x20 || c = '\x7f'

def needsCode (c : Char) : Bool := isControl c && c ≠ '\t' && c ≠ '\n'

def longestRun (c : Char) (cs : List Char) : Nat :=
  (cs.foldl (fun (longest, current) x =>
    if x = c then (max longest (current + 1), current + 1) else (longest, 0)) (0, 0)).1

def shortEscape? : Char → Option (List Char)
  | '\x08' => some ['\\', 'b']
  | '\t' => some ['\\', 't']
  | '\x0c' => some ['\\', 'f']
  | '\r' => some ['\\', 'r']
  | '\\' => some ['\\', '\\']
  | _ => none

/-- Escapes for a text in which up to `quotes` double quotes may follow one another, `seen` of
them just before. -/
def escapes (multiline : Bool) (quotes : Nat) : Nat → List Char → List Char
  | _, [] => []
  | seen, '"' :: cs =>
    if quotes ≤ seen then '\\' :: '"' :: escapes multiline quotes 0 cs
    else '"' :: escapes multiline quotes (seen + 1) cs
  | _, c :: cs =>
    (if c = '\n' then if multiline then [c] else ['\\', 'n']
      else match shortEscape? c with
        | some e => e
        | none =>
          if isControl c then ['\\', 'u'] ++ padded 4 (upperHexadecimal c.toNat) else [c])
      ++ escapes multiline quotes 0 cs

def basic (cs : List Char) : List Char := '"' :: escapes false 0 0 cs ++ ['"']

def literal (cs : List Char) : List Char := '\'' :: cs ++ ['\'']

def opening (cs : List Char) : List Char := if cs.contains '\n' then ['\n'] else []

def longBasic (cs : List Char) : List Char :=
  ['"', '"', '"'] ++ opening cs ++ escapes true 2 0 cs ++ ['"', '"', '"']

def longLiteral (cs : List Char) : List Char :=
  ['\'', '\'', '\''] ++ opening cs ++ cs ++ ['\'', '\'', '\'']

def writeText (cs : List Char) : List Char :=
  let codes := cs.any needsCode
  let lines := cs.contains '\n'
  let escaped := cs.contains '\\'
  if !codes && !lines && !escaped && !cs.contains '"' then basic cs
  else if !codes && !lines && !cs.contains '\'' then literal cs
  else if !codes && !escaped && longestRun '"' cs ≤ 2 then longBasic cs
  else if !codes && longestRun '\'' cs ≤ 2 then longLiteral cs
  else if lines then longBasic cs
  else basic cs

def isBare (c : Char) : Bool := c.isAlphanum || c = '_' || c = '-'

def writeName (cs : List Char) : List Char :=
  let codes := cs.any fun c => needsCode c || c = '\n'
  if !cs.isEmpty && cs.all isBare then cs
  else if !codes && !cs.contains '\\' && !cs.contains '"' then basic cs
  else if !codes && !cs.contains '\'' then literal cs
  else basic cs

mutual

def write : Toml → List Char
  | .text s => writeText s.toList
  | .integer n => signed n
  | .float x => writeFloat x
  | .truth true => ['t', 'r', 'u', 'e']
  | .truth false => ['f', 'a', 'l', 's', 'e']
  | .moment m => m.display
  | .array items => '[' :: Text.joinedWith [',', ' '] (writeItems items) ++ [']']
  | .table [] => ['\x7b', '\x7d']
  | .table entries =>
    ['\x7b', ' '] ++ Text.joinedWith [',', ' '] (writeEntries entries) ++ [' ', '\x7d']

def writeItems : List Toml → List (List Char)
  | [] => []
  | item :: items => write item :: writeItems items

def writeEntries : List (String × Toml) → List (List Char)
  | [] => []
  | (name, value) :: entries =>
    (writeName name.toList ++ [' ', '=', ' '] ++ write value) :: writeEntries entries

end

def momentName : String := "$__toml_private_datetime"

/-- A value on its own. A date or a time is shown as a table of its text. -/
def display (v : Toml) : String :=
  String.ofList (write (match v with
    | .moment m => .table [(momentName, .text (String.ofList m.display))]
    | v => v))

end CatalogMigration.Toml
