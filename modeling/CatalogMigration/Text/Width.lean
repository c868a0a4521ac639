import CatalogMigration.Text.Columns

namespace CatalogMigration.Text

inductive Following
  | other
  | lineFeed
  | textSelector
  | pictureSelector
  | picture
  | tone
  | joinedPicture
  | selectedJoinedPicture
  | regional
  | alef
deriving DecidableEq, Repr

def isTone (c : Char) : Bool := 0x1f3fb ≤ c.toNat && c.toNat ≤ 0x1f3ff

def isRegional (c : Char) : Bool := 0x1f1e6 ≤ c.toNat && c.toNat ≤ 0x1f1ff

def isAlef (c : Char) : Bool :=
  [0x622, 0x623, 0x625, 0x627, 0x671, 0x672, 0x673, 0x675, 0x773, 0x774].contains c.toNat

def isLam (c : Char) : Bool :=
  [0x644, 0x6b5, 0x6b6, 0x6b7, 0x6b8, 0x76a, 0x8a6, 0x8c7].contains c.toNat

def columns (c : Char) : Nat :=
  if c.toNat = 0x17d8 then 3
  else if among zeroWidth c then 0
  else if among doubleWidth c then 2
  else 1

def alone (c : Char) : Nat × Following :=
  (columns c,
    if c.toNat = 0xfe0e then .textSelector
    else if c.toNat = 0xfe0f then .pictureSelector
    else if isTone c then .tone
    else if isRegional c then .regional
    else if among picture c then .picture
    else if isAlef c then .alef
    else .other)

def isJoinable : Following → Bool
  | .picture | .tone | .regional => true
  | _ => false

/-- The columns a character adds to the text after it, and what the text then begins with. -/
def before (c : Char) (next : Following) : Nat × Following :=
  if c.toNat ≤ 0xa0 then
    if next = .pictureSelector ∧ among pictureBySelector c then (2, .picture)
    else if c = '\n' then (1, .lineFeed)
    else if c = '\r' ∧ next = .lineFeed then (0, .other)
    else (1, .other)
  else
    match next with
    | .pictureSelector => if among pictureBySelector c then (2, .picture) else alone c
    | .selectedJoinedPicture => if among pictureBySelector c then (0, .picture) else alone c
    | .textSelector =>
      if among picture c && among pictureBySelector c && !(0x1f200 ≤ c.toNat && c.toNat ≤ 0x1f2ff)
      then (1, .other) else alone c
    | .tone =>
      if among toned c then (0, .picture)
      else if c.toNat = 0x200d then (0, .joinedPicture) else alone c
    | .joinedPicture =>
      if c.toNat = 0xfe0f then (0, .selectedJoinedPicture)
      else if isTone c then (0, .tone)
      else if among picture c then (0, .picture) else alone c
    | .alef => if isLam c then (0, .other) else if columns c = 0 then (0, .alef) else alone c
    | next => if c.toNat = 0x200d ∧ isJoinable next then (0, .joinedPicture) else alone c

def scanWidth (cs : List Char) : Nat × Following :=
  cs.foldr (fun c r => let s := before c r.2; (s.1 + r.1, s.2)) (0, .other)

def width (cs : List Char) : Nat := (scanWidth cs).1

end CatalogMigration.Text
