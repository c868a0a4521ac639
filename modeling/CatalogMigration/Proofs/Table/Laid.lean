import CatalogMigration.Proofs.Table.Cells
import CatalogMigration.Proofs.Table.Shown

namespace CatalogMigration

/-- A decimal that no batch has. -/
def FieldType.BeyondBatch (t : FieldType) : Prop :=
  ∃ precision scale, t = .primitive (.decimal precision scale) ∧
    (precision = 0 ∨ 38 < precision ∨ precision < scale)

theorem PrimitiveType.decimalFault?_eq_none_iff {p : PrimitiveType} :
    p.decimalFault? = none ↔ ¬ (FieldType.primitive p).BeyondBatch := by
  cases p with
  | decimal precision scale =>
    have beyond : (FieldType.primitive (.decimal precision scale)).BeyondBatch ↔
        precision = 0 ∨ 38 < precision ∨ precision < scale := by
      constructor
      · rintro ⟨_, _, same, beyond⟩
        cases same
        exact beyond
      · intro beyond
        exact ⟨precision, scale, rfl, beyond⟩
    rw [beyond, decimalFault?]
    -- what is no byte is more than 38 digits already, or more behind the point than there are
    split
    · simp
      omega
    · split
      · simp
        omega
      · split <;> simp_all
  | _ =>
    refine iff_of_true rfl ?_
    rintro ⟨_, _, same, -⟩
    cases same

theorem FieldType.decimalFault?_of_fixture {t : FieldType} {name : String}
    (own : fixtureType? name = some t.columnType) : t.decimalFault? = none := by
  rcases fixtureType?_cases own with ⟨-, type⟩ | ⟨-, type⟩ | ⟨-, type⟩
  all_goals
    rw [eq_of_columnType type rfl]
    rfl

theorem FieldType.valueType_eq_iff {t : FieldType} {c : ColumnType}
    (known : ∀ name, c ≠ .other name) : c.valueType = t.valueType ↔ t.columnType = c := by
  cases t with
  | primitive p =>
    cases p <;> cases c <;>
      simp_all [ColumnType.valueType, valueType, PrimitiveType.valueType, columnType]
  | struct members =>
    cases c <;> simp_all [ColumnType.valueType, valueType, columnType]
  | list | map => cases c <;> simp_all [ColumnType.valueType, valueType, columnType]

namespace FieldSchema

variable {s : FieldSchema} {rows : List Row}

/-- The fields are fixture columns and the rows have values where they have to. -/
structure Takes (s : FieldSchema) (rows : List Row) : Prop where
  nonempty : s.fields ≠ []
  typed : ∀ f ∈ s.fields, fixtureType? f.name = some f.type.columnType
  filled : ∀ f ∈ s.fields, f.required = true → ∀ r ∈ rows, r.cell? f.name ≠ none

/-- There is no field, or one that is no fixture column, has another type than that, or has to
have a value that a row does not have. -/
def Unfit (s : FieldSchema) (rows : List Row) : Prop :=
  s.fields = [] ∨ (∃ f ∈ s.fields, f.name ∉ ["id", "strings", "floats"]) ∨
    (∃ f ∈ s.fields, ∃ type, fixtureType? f.name = some type ∧ f.type.columnType ≠ type) ∨
    ∃ f ∈ s.fields, f.required = true ∧ ∃ r ∈ rows, r.cell? f.name = none

theorem not_unfit_iff : ¬ s.Unfit rows ↔ s.Takes rows := by
  constructor
  · intro fit
    simp only [Unfit, not_or, not_exists, not_and, Classical.not_not] at fit
    obtain ⟨nonempty, named, typed, filled⟩ := fit
    refine ⟨nonempty, fun f member => ?_, filled⟩
    cases found : fixtureType? f.name with
    | none => exact absurd (named f member) (fixtureType?_eq_none_iff.mp found)
    | some type => rw [typed f member type found]
  · rintro ⟨nonempty, typed, filled⟩ unfit
    rcases unfit with empty | ⟨f, member, unnamed⟩ | ⟨f, member, type, named, other⟩ |
      ⟨f, member, required, r, row, null⟩
    · exact nonempty empty
    · rw [← fixtureType?_eq_none_iff, typed f member] at unnamed
      cases unnamed
    · rw [typed f member, Option.some.injEq] at named
      exact other named
    · exact filled f member required r row null

def laid (rows : List Row) (f : Field) : BatchField × Values :=
  (batchField f, (fixtureColumn? f.name rows).getD (.absent rows.length))

theorem columns_of_named {fields : List Field} (named : ∀ f ∈ fields, fixtureType? f.name ≠ none) :
    columns rows fields = .ok (fields.map (laid rows)) := by
  induction fields with
  | nil => rfl
  | cons f fields ih =>
    obtain ⟨known, others⟩ := List.forall_mem_cons.mp named
    rcases fixtureColumn?_cases f.name rows with ⟨unnamed, -⟩ | ⟨type, values, -, found, -⟩
    · exact absurd unnamed known
    · rw [columns, List.map_cons, laid, found, ih others]
      rfl

theorem columns_of_unnamed (rows : List Row) {fields : List Field} {f : Field} (member : f ∈ fields)
    (unnamed : fixtureType? f.name = none) :
    ∃ name, columns rows fields = .error (.noValues name) := by
  induction fields with
  | nil => cases member
  | cons g fields ih =>
    rw [columns]
    rcases fixtureColumn?_cases g.name rows with ⟨-, absent⟩ | ⟨type, values, named, found, -⟩
    · exact ⟨g.name, by rw [absent]⟩
    · have later : f ∈ fields := by
        rcases List.mem_cons.mp member with rfl | later
        · rw [unnamed] at named
          cases named
        · exact later
      obtain ⟨name, fails⟩ := ih later
      exact ⟨name, by rw [found, fails]; rfl⟩

section
variable {f : Field} (named : fixtureType? f.name ≠ none)
include named

theorem laid_values (rows : List Row) :
    ∃ type, fixtureType? f.name = some type ∧ (laid rows f).2.type = type.valueType ∧
      (laid rows f).2.cells = rows.map (·.cell? f.name) := by
  rcases fixtureColumn?_cases f.name rows with
    ⟨unnamed, -⟩ | ⟨type, values, own, found, typed, cells⟩
  · exact absurd unnamed named
  · rw [laid, found]
    exact ⟨type, own, typed, cells⟩

theorem laid_length : (laid rows f).2.length = rows.length := by
  obtain ⟨-, -, -, cells⟩ := laid_values named rows
  rw [← Values.length_cells, cells, List.length_map]

theorem laid_type_iff :
    (laid rows f).2.type = (laid rows f).1.type ↔ fixtureType? f.name = some f.type.columnType := by
  obtain ⟨type, own, typed, -⟩ := laid_values named rows
  rw [typed, own, Option.some.injEq, eq_comm (a := type)]
  exact FieldType.valueType_eq_iff (fixtureType?_ne_other own)

theorem laid_nullCount_iff :
    (laid rows f).2.nullCount = 0 ↔ ∀ r ∈ rows, r.cell? f.name ≠ none := by
  obtain ⟨type, own, typed, cells⟩ := laid_values named rows
  have present : (laid rows f).2.type ≠ .absent := by
    rw [typed]
    rcases fixtureType?_cases own with ⟨-, rfl⟩ | ⟨-, rfl⟩ | ⟨-, rfl⟩ <;> nofun
  rw [Values.nullCount_eq_zero_iff present, cells]
  constructor
  · intro no_null r row null
    exact no_null (List.mem_map.mpr ⟨r, row, null⟩)
  · intro filled null
    obtain ⟨r, row, missing⟩ := List.mem_map.mp null
    exact filled r row missing

end

theorem takes_of_sound {count : Nat} (named : ∀ f ∈ s.fields, fixtureType? f.name ≠ none)
    (sound : Batch.Sound count (s.fields.map (laid rows))) : s.Takes rows := by
  obtain ⟨nonempty, -, types, required⟩ := sound
  rw [List.forall_mem_map] at types required
  refine ⟨by simpa using nonempty, fun f member => ?_, fun f member must => ?_⟩
  · exact (laid_type_iff (named f member)).mp (types f member)
  · have forbids : (laid rows f).1.nullable = false := by simp [laid, batchField, must]
    exact (laid_nullCount_iff (named f member)).mp (required f member forbids)

theorem Takes.named (takes : s.Takes rows) : ∀ f ∈ s.fields, fixtureType? f.name ≠ none := by
  intro f member
  rw [takes.typed f member]
  simp

theorem Takes.sound (takes : s.Takes rows) :
    Batch.Sound rows.length (s.fields.map (laid rows)) := by
  refine ⟨by simpa using takes.nonempty, ?_, ?_, ?_⟩ <;> rw [List.forall_mem_map] <;>
    intro f member <;> have named := takes.named f member
  · exact laid_length named
  · exact (laid_type_iff named).mpr (takes.typed f member)
  · intro forbids
    have must : f.required = true := by simpa [laid, batchField] using forbids
    exact (laid_nullCount_iff named).mpr (takes.filled f member must)

theorem Takes.whole (takes : s.Takes rows) : s.decimalFault? = none := by
  rw [decimalFault?, List.findSome?_eq_none_iff]
  intro f member
  exact FieldType.decimalFault?_of_fixture (takes.typed f member)

def laidBatch (s : FieldSchema) (rows : List Row) : Batch :=
  ⟨(s.fields.map (laid rows)).map (·.1), (s.fields.map (laid rows)).map (·.2), rows.length⟩

theorem Takes.toBatch (takes : s.Takes rows) : s.toBatch rows = .ok (s.laidBatch rows) := by
  rw [FieldSchema.toBatch, takes.whole, columns_of_named takes.named]
  show (Batch.ofColumns (s.fields.map (laid rows))).mapError LayoutFault.batch = _
  rw [Batch.ofColumns_of_sound takes.sound]
  rfl

theorem toBatch_of_unfit (unfit : s.Unfit rows) (whole : s.decimalFault? = none) :
    (∃ name, s.toBatch rows = .error (.noValues name)) ∨
      ∃ fault, s.toBatch rows = .error (.batch fault) := by
  rw [FieldSchema.toBatch, whole]
  by_cases named : ∀ f ∈ s.fields, fixtureType? f.name ≠ none
  · right
    rw [columns_of_named named]
    show ∃ fault, (Batch.ofColumns (s.fields.map (laid rows))).mapError LayoutFault.batch = _
    cases made : Batch.ofColumns (s.fields.map (laid rows)) with
    | error fault => exact ⟨fault, rfl⟩
    | ok b =>
      have takes := takes_of_sound named (Batch.sound_of_ofColumns made)
      exact absurd unfit (not_unfit_iff.mpr takes)
  · left
    obtain ⟨f, member, unnamed⟩ : ∃ f ∈ s.fields, fixtureType? f.name = none := by
      simpa using named
    obtain ⟨name, fails⟩ := columns_of_unnamed rows member unnamed
    exact ⟨name, by rw [fails]; rfl⟩

theorem column?_laidBatch {name : String} (there : ∃ f ∈ s.fields, f.name = name) :
    (s.laidBatch rows).column? name =
      some ((fixtureColumn? name rows).getD (.absent rows.length)) := by
  have zipped : (s.laidBatch rows).fields.zip (s.laidBatch rows).columns =
      s.fields.map (laid rows) := by
    rw [laidBatch, List.zip_map', List.map_id']
  cases found : s.fields.find? (·.name = name) with
  | none =>
    obtain ⟨f, member, own⟩ := there
    have other := List.find?_eq_none.mp found f member
    simp [own] at other
  | some f =>
    have own : f.name = name := by simpa using List.find?_some found
    rw [Batch.column?, zipped, List.find?_map]
    show ((s.fields.find? (·.name = name)).map (laid rows)).map (·.2) = _
    rw [found, ← own]
    rfl

theorem rows_laidBatch (ids : ∃ f ∈ s.fields, f.name = "id")
    (strings : ∃ f ∈ s.fields, f.name = "strings") (floats : ∃ f ∈ s.fields, f.name = "floats") :
    (s.laidBatch rows).rows = .ok rows :=
  rows_of_columns (column?_laidBatch ids) (column?_laidBatch strings) (column?_laidBatch floats)

def Flat (s : FieldSchema) : Prop := ∀ f ∈ s.fields, ∃ p, f.type = .primitive p

theorem Flat.decimalFault?_eq_none_iff (flat : s.Flat) :
    s.decimalFault? = none ↔ ∀ f ∈ s.fields, ¬ f.type.BeyondBatch := by
  rw [decimalFault?, List.findSome?_eq_none_iff]
  apply forall₂_congr
  intro f member
  obtain ⟨p, kind⟩ := flat f member
  rw [kind]
  exact PrimitiveType.decimalFault?_eq_none_iff

end FieldSchema

namespace TableSchema

variable {s : FieldSchema} {rows : List Row}

def FixtureColumns (s : TableSchema) : Prop :=
  ∃ ids strings floats, s.columns.Perm
    [⟨"id", .long, ids⟩, ⟨"strings", .string, strings⟩, ⟨"floats", .float, floats⟩]

def Filled (s : TableSchema) (rows : List Row) : Prop :=
  ∀ c ∈ s.columns, c.nullable = false → ∀ r ∈ rows, r.cell? c.name ≠ none

section
variable {t : TableSchema} (fixture : t.FixtureColumns)
include fixture

theorem FixtureColumns.distinct : (t.columns.map (·.name)).Nodup := by
  obtain ⟨_, _, _, order⟩ := fixture
  rw [(order.map _).nodup_iff]
  show ["id", "strings", "floats"].Nodup
  decide

theorem FixtureColumns.own {c : Column} (member : c ∈ t.columns) :
    fixtureType? c.name = some c.type := by
  obtain ⟨_, _, _, order⟩ := fixture
  have listed := order.mem_iff.mp member
  simp only [List.mem_cons, List.not_mem_nil, or_false] at listed
  rcases listed with rfl | rfl | rfl <;> rfl

theorem FixtureColumns.typed : t.Typed := by
  intro c member type
  exact fixtureType?_ne_other (fixture.own member) type

theorem FixtureColumns.there {name : String} (known : name ∈ ["id", "strings", "floats"]) :
    ∃ c ∈ t.columns, c.name = name := by
  obtain ⟨ids, strings, floats, order⟩ := fixture
  simp only [List.mem_cons, List.not_mem_nil, or_false] at known
  rcases known with rfl | rfl | rfl
  · exact ⟨⟨"id", .long, ids⟩, order.mem_iff.mpr (by simp), rfl⟩
  · exact ⟨⟨"strings", .string, strings⟩, order.mem_iff.mpr (by simp), rfl⟩
  · exact ⟨⟨"floats", .float, floats⟩, order.mem_iff.mpr (by simp), rfl⟩

theorem FixtureColumns.takes (filled : t.Filled rows) (shown : s.toSchema = t) : s.Takes rows := by
  have there {f : Field} (member : f ∈ s.fields) : f.column ∈ t.columns := by
    rw [← shown]
    exact List.mem_map_of_mem member
  refine ⟨?_, fun f member => fixture.own (there member), fun f member must => ?_⟩
  · intro empty
    have known : "id" ∈ ["id", "strings", "floats"] := by decide
    obtain ⟨c, member, -⟩ := fixture.there known
    rw [← shown, FieldSchema.toSchema, empty] at member
    cases member
  · exact filled f.column (there member) (by rw [Field.column, must]; rfl)

theorem FixtureColumns.field (shown : s.toSchema = t) {name : String}
    (known : name ∈ ["id", "strings", "floats"]) : ∃ f ∈ s.fields, f.name = name := by
  obtain ⟨c, member, named⟩ := fixture.there known
  rw [← shown] at member
  obtain ⟨f, listed, rfl⟩ := List.mem_map.mp member
  exact ⟨f, listed, named⟩

end

end TableSchema

end CatalogMigration
