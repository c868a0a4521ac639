import CatalogMigration.Numeral.Shortest
import CatalogMigration.Text.Quoted

namespace CatalogMigration

open Numeral

structure Row where
  id : Option Int
  strings : Option String
  floats : Option Single
deriving DecidableEq

namespace Row

/-- Equality of contents: numbers are compared as numbers, so what is not a number differs from
itself. -/
def same (a b : Row) : Bool :=
  a.id == b.id && a.strings == b.strings &&
    match a.floats, b.floats with
    | none, none => true
    | some x, some y => x.same y
    | _, _ => false

def diagnostic (r : Row) : String :=
  Text.record "FixtureRow"
    [("id", Text.optional signedText r.id), ("strings", Text.optional Text.quoted r.strings),
      ("floats", Text.optional (fun x => String.ofList (Style.diagnostic.render x)) r.floats)]

def notAfter (a b : Row) : Bool :=
  match a.id, b.id with
  | none, _ => true
  | some _, none => false
  | some x, some y => x ≤ y

def place (r : Row) : List Row → List Row
  | [] => [r]
  | x :: xs => if r.notAfter x then r :: x :: xs else x :: place r xs

end Row

/-- By identifier, absent ones first, rows of one identifier in their given order. -/
def sortedRows (rows : List Row) : List Row := rows.foldr Row.place []

def sameRows : List Row → List Row → Bool
  | [], [] => true
  | a :: as, b :: bs => a.same b && sameRows as bs
  | _, _ => false

def rowsDiagnostic (rows : List Row) : String :=
  "[" ++ ", ".intercalate (rows.map Row.diagnostic) ++ "]"

/-- The two rows every table is written with. -/
def fixtureRows : List Row :=
  [⟨some 1, some "a-string", some (.ofDecimal .single false 22 (-1))⟩,
    ⟨some 2, some "b-string", some (.ofDecimal .single false 33 (-1))⟩]

end CatalogMigration
