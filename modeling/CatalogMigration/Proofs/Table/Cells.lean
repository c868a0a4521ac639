import CatalogMigration.Table.FieldSchema
import CatalogMigration.Table.Scan

namespace CatalogMigration

open Numeral

inductive Cell
  | long (number : Int)
  | text (text : String)
  | float (number : Single)
deriving DecidableEq

namespace Values

def cells : Values → List (Option Cell)
  | .longs cells => cells.map (·.map .long)
  | .strings cells => cells.map (·.map .text)
  | .floats cells => cells.map (·.map .float)
  | .absent count => List.replicate count none

theorem length_cells (v : Values) : v.cells.length = v.length := by
  cases v <;> simp [cells, length]

theorem nullCount_eq_zero_iff {v : Values} (typed : v.type ≠ .absent) :
    v.nullCount = 0 ↔ none ∉ v.cells := by
  cases v with
  | longs cells | strings cells | floats cells =>
    rw [nullCount, Values.cells, List.countP_eq_zero]
    constructor
    · intro all_there null
      obtain ⟨c, member, none_c⟩ := List.mem_map.mp null
      exact all_there c member (by simpa using none_c)
    · intro no_null c member absent
      apply no_null
      exact List.mem_map.mpr ⟨c, member, by simpa using absent⟩
  | absent count => exact absurd rfl typed

theorem cells_nulls (type : ValueType) (count : Nat) :
    (nulls type count).cells = List.replicate count none := by
  cases type <;> simp [nulls, cells]

end Values

/-- The value of a row under the name of a fixture column. -/
def Row.cell? (r : Row) : String → Option Cell
  | "id" => r.id.map .long
  | "strings" => r.strings.map .text
  | "floats" => r.floats.map .float
  | _ => none

def fixtureType? (name : String) : Option ColumnType :=
  (TableSchema.fixture.column? name).map (·.type)

theorem fixtureType?_id : fixtureType? "id" = some .long := rfl

theorem fixtureType?_strings : fixtureType? "strings" = some .string := rfl

theorem fixtureType?_floats : fixtureType? "floats" = some .float := rfl

theorem fixtureType?_of_ne {name : String} (id : name ≠ "id") (strings : name ≠ "strings")
    (floats : name ≠ "floats") : fixtureType? name = none := by
  simp [fixtureType?, TableSchema.column?, TableSchema.fixture, id.symm, strings.symm, floats.symm]

theorem fixtureType?_cases {name : String} {type : ColumnType}
    (found : fixtureType? name = some type) :
    name = "id" ∧ type = .long ∨ name = "strings" ∧ type = .string ∨
      name = "floats" ∧ type = .float := by
  by_cases id : name = "id"
  · subst id
    cases found
    exact .inl ⟨rfl, rfl⟩
  by_cases strings : name = "strings"
  · subst strings
    cases found
    exact .inr (.inl ⟨rfl, rfl⟩)
  by_cases floats : name = "floats"
  · subst floats
    cases found
    exact .inr (.inr ⟨rfl, rfl⟩)
  · rw [fixtureType?_of_ne id strings floats] at found
    cases found

theorem fixtureType?_ne_other {name : String} {type : ColumnType}
    (found : fixtureType? name = some type) (kind : String) : type ≠ .other kind := by
  rcases fixtureType?_cases found with ⟨-, rfl⟩ | ⟨-, rfl⟩ | ⟨-, rfl⟩ <;> nofun

theorem fixtureType?_eq_none_iff {name : String} :
    fixtureType? name = none ↔ name ∉ ["id", "strings", "floats"] := by
  constructor
  · intro none_of member
    simp only [List.mem_cons, List.not_mem_nil, or_false] at member
    rcases member with rfl | rfl | rfl <;> cases none_of
  · intro other
    simp only [List.mem_cons, List.not_mem_nil, or_false, not_or] at other
    exact fixtureType?_of_ne other.1 other.2.1 other.2.2

theorem fixtureColumn?_cases (name : String) (rows : List Row) :
    (fixtureType? name = none ∧ fixtureColumn? name rows = none) ∨
    ∃ type values, fixtureType? name = some type ∧ fixtureColumn? name rows = some values ∧
      values.type = type.valueType ∧ values.cells = rows.map (·.cell? name) := by
  by_cases id : name = "id"
  · subst id
    refine .inr ⟨_, .longs (rows.map (·.id)), rfl, rfl, rfl, ?_⟩
    rw [Values.cells, List.map_map]
    rfl
  by_cases strings : name = "strings"
  · subst strings
    refine .inr ⟨_, .strings (rows.map (·.strings)), rfl, rfl, rfl, ?_⟩
    rw [Values.cells, List.map_map]
    rfl
  by_cases floats : name = "floats"
  · subst floats
    refine .inr ⟨_, .floats (rows.map (·.floats)), rfl, rfl, rfl, ?_⟩
    rw [Values.cells, List.map_map]
    rfl
  · refine .inl ⟨fixtureType?_of_ne id strings floats, ?_⟩
    rw [fixtureColumn?, if_neg id, if_neg strings, if_neg floats]

namespace Batch

/-- Columns of one length, of the types of their fields and without nulls where none may be. -/
structure Sound (count : Nat) (pairs : List (BatchField × Values)) : Prop where
  nonempty : pairs ≠ []
  lengths : ∀ p ∈ pairs, p.2.length = count
  types : ∀ p ∈ pairs, p.2.type = p.1.type
  required : ∀ p ∈ pairs, p.1.nullable = false → p.2.nullCount = 0

theorem firstMismatch?_eq_none_iff {index : Nat} {pairs : List (BatchField × Values)} :
    firstMismatch? index pairs = none ↔ ∀ p ∈ pairs, p.2.type = p.1.type := by
  induction pairs generalizing index with
  | nil => simp [firstMismatch?]
  | cons p rest ih =>
    rw [firstMismatch?, List.forall_mem_cons]
    by_cases same : p.2.type = p.1.type
    · rw [if_pos same, ih]
      exact (and_iff_right same).symm
    · rw [if_neg same]
      exact iff_of_false (by simp) fun all => same all.1

theorem ofColumns_of_sound {count : Nat} {pairs : List (BatchField × Values)}
    (sound : Sound count pairs) :
    ofColumns pairs = .ok ⟨pairs.map (·.1), pairs.map (·.2), count⟩ := by
  obtain ⟨nonempty, lengths, types, required⟩ := sound
  obtain ⟨⟨field, first⟩, rest, rfl⟩ := List.exists_cons_of_ne_nil nonempty
  obtain rfl : first.length = count := lengths (field, first) (by simp)
  have no_null : ((field, first) :: rest).find?
      (fun p => !p.1.nullable && 0 < p.2.nullCount) = none := by
    rw [List.find?_eq_none]
    intro p member refused
    simp only [Bool.and_eq_true, Bool.not_eq_true', decide_eq_true_eq] at refused
    have zero := required p member refused.1
    omega
  have even : ((field, first) :: rest).any (·.2.length ≠ first.length) = false := by
    rw [List.any_eq_false]
    intro p member
    simp [lengths p member]
  have typed : firstMismatch? 0 ((field, first) :: rest) = none :=
    firstMismatch?_eq_none_iff.mpr types
  rw [ofColumns, no_null]
  simp only [even, typed, Bool.false_eq_true, if_false]

theorem sound_of_ofColumns {pairs : List (BatchField × Values)} {b : Batch}
    (ok : ofColumns pairs = .ok b) : Sound b.rowCount pairs := by
  cases pairs with
  | nil => cases ok
  | cons first rest =>
    obtain ⟨field, values⟩ := first
    rw [ofColumns] at ok
    split at ok
    · cases ok
    rename_i no_null
    split at ok
    · cases ok
    rename_i even
    split at ok
    · cases ok
    rename_i typed
    cases ok
    refine ⟨List.cons_ne_nil _ _, fun p member => ?_, firstMismatch?_eq_none_iff.mp typed,
      fun p member required => ?_⟩
    · have same := List.any_eq_false.mp (Bool.not_eq_true _ ▸ even) p member
      simpa using same
    · have refused := List.find?_eq_none.mp no_null p member
      simp only [required, Bool.not_false, Bool.true_and, decide_eq_true_eq] at refused
      omega

end Batch

end CatalogMigration
