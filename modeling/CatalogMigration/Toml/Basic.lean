import CatalogMigration.Assoc
import CatalogMigration.Numeral.Shortest

namespace CatalogMigration

open Numeral

namespace Toml

structure Day where
  year : Nat
  month : Nat
  day : Nat
deriving DecidableEq, Repr

namespace Day

def isLeap (year : Nat) : Bool := year % 4 = 0 && (year % 100 ≠ 0 || year % 400 = 0)

def lastOf (year month : Nat) : Nat :=
  if month = 2 then if isLeap year then 29 else 28
  else if [4, 6, 9, 11].contains month then 30
  else 31

def isValid (d : Day) : Bool :=
  1 ≤ d.month && d.month ≤ 12 && 1 ≤ d.day && d.day ≤ lastOf d.year d.month

def display (d : Day) : List Char :=
  padded 4 (decimal d.year) ++ '-' :: padded 2 (decimal d.month) ++ '-' :: padded 2 (decimal d.day)

end Day

structure Clock where
  hour : Nat
  minute : Nat
  second : Nat
  nanosecond : Nat
deriving DecidableEq, Repr

namespace Clock

def isValid (c : Clock) : Bool := c.hour ≤ 23 && c.minute ≤ 59 && c.second ≤ 60

def display (c : Clock) : List Char :=
  padded 2 (decimal c.hour) ++ ':' :: padded 2 (decimal c.minute) ++ ':' ::
    padded 2 (decimal c.second) ++
    (if c.nanosecond = 0 then []
      else '.' :: ((padded 9 (decimal c.nanosecond)).reverse.dropWhile (· = '0')).reverse)

end Clock

inductive Offset
  | utc
  | minutes (m : Int)
deriving DecidableEq, Repr

def Offset.display : Offset → List Char
  | .utc => ['Z']
  | .minutes m =>
    (if m < 0 then '-' else '+') :: padded 2 (decimal (m.natAbs / 60)) ++
      ':' :: padded 2 (decimal (m.natAbs % 60))

inductive Moment
  | day (d : Day)
  | clock (c : Clock)
  | full (d : Day) (c : Clock) (offset : Option Offset)
deriving DecidableEq, Repr

def Moment.display : Moment → List Char
  | .day d => d.display
  | .clock c => c.display
  | .full d c offset => d.display ++ 'T' :: c.display ++ (offset.map Offset.display).getD []

end Toml

inductive Toml
  | text (s : String)
  | integer (n : Int)
  | float (x : Double)
  | truth (b : Bool)
  | moment (m : Toml.Moment)
  | array (items : List Toml)
  | table (entries : List (String × Toml))

namespace Toml

def member? (name : String) : Toml → Option Toml
  | .table entries => Named.get? entries name
  | _ => none

end Toml

end CatalogMigration
