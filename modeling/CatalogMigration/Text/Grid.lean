import CatalogMigration.Text.Width

namespace CatalogMigration.Text

def isBlank (c : Char) : Bool :=
  let n := c.toNat
  (9 ≤ n && n ≤ 13) || (0x2000 ≤ n && n ≤ 0x200a) ||
    [0x20, 0x85, 0xa0, 0x1680, 0x2028, 0x2029, 0x202f, 0x205f, 0x3000].contains n

def trimmed (cs : List Char) : List Char :=
  ((cs.dropWhile isBlank).reverse.dropWhile isBlank).reverse

/-- The parts between the occurrences of a separator: always at least one. -/
def splitOn (sep : Char) : List Char → List (List Char)
  | [] => [[]]
  | c :: cs =>
    match splitOn sep cs with
    | [] => [[c]]
    | part :: parts => if c = sep then [] :: part :: parts else (c :: part) :: parts

def joinedWith (sep : List Char) : List (List Char) → List Char
  | [] => []
  | [part] => part
  | part :: parts => part ++ sep ++ joinedWith sep parts

namespace Grid

abbrev Cell := List (List Char)

def Cell.ofText (s : String) : Cell := splitOn '\n' s.toList

def Cell.width (c : Cell) : Nat := c.foldl (fun w line => max w (Text.width line)) 1

def columnWidths : List (List Cell) → List Nat
  | [] => []
  | [row] => row.map Cell.width
  | row :: rows => List.zipWith max (row.map Cell.width) (columnWidths rows)

def padded (width : Nat) (line : List Char) : List Char :=
  line ++ List.replicate (width - Text.width line) ' '

def border (widths : List Nat) : List Char :=
  '+' :: widths.flatMap fun w => List.replicate (w + 2) '-' ++ ['+']

def rowLine (widths : List Nat) (row : List Cell) (i : Nat) : List Char :=
  '|' :: (List.zip widths row).flatMap fun (w, cell) => ' ' :: padded w (cell[i]?.getD []) ++ [' ', '|']

def rowLines (widths : List Nat) (row : List Cell) : List (List Char) :=
  (List.range (row.foldl (fun h cell => max h cell.length) 1)).map (rowLine widths row)

def lines (heading : List Cell) (rows : List (List Cell)) : List (List Char) :=
  let widths := columnWidths (heading :: rows)
  border widths :: rowLines widths heading ++
    border widths :: rows.flatMap (rowLines widths) ++ [border widths]

/-- The heading between borders, then the rows, then the last border. -/
def render (heading : List String) (rows : List (List String)) : String :=
  String.ofList (joinedWith ['\n']
    (lines (heading.map Cell.ofText) (rows.map (·.map Cell.ofText))))

end Grid

end CatalogMigration.Text
