import CatalogMigration.Proofs.Rest.StoredSchema
import CatalogMigration.Proofs.Table.Laid

namespace CatalogMigration

namespace RestSession

open FieldSchema

variable {rows : List Row}

def decimalError (fault : DecimalFault) : SessionError :=
  .catalog ("DataInvalid => " ++ fault.message)

theorem layout_of_takes {s : FieldSchema} (takes : s.Takes rows) :
    layout s rows = .ok (s.laidBatch rows) := by
  rw [layout, takes.toBatch]
  rfl

theorem layout_cases (s : FieldSchema) (rows : List Row) :
    (s.Takes rows ∧ s.decimalFault? = none ∧ layout s rows = .ok (s.laidBatch rows)) ∨
    (s.Unfit rows ∧ ∃ fault, s.decimalFault? = some fault ∧
      layout s rows = .error (decimalError fault)) ∨
    (s.Unfit rows ∧ s.decimalFault? = none ∧
      ∃ text, layout s rows = .error (.unexpectedData text)) := by
  by_cases unfit : s.Unfit rows
  · right
    cases whole : s.decimalFault? with
    | some fault =>
      left
      refine ⟨unfit, fault, rfl, ?_⟩
      rw [layout, toBatch, whole]
      rfl
    | none =>
      right
      refine ⟨unfit, rfl, ?_⟩
      rcases toBatch_of_unfit unfit whole with ⟨name, fails⟩ | ⟨fault, fails⟩
      · exact ⟨_, by rw [layout, fails]; rfl⟩
      · exact ⟨_, by rw [layout, fails]; rfl⟩
  · left
    have takes := not_unfit_iff.mp unfit
    exact ⟨takes, takes.whole, layout_of_takes takes⟩

theorem layout_of_fixtureColumns {t : TableSchema} (fixture : t.FixtureColumns)
    (filled : t.Filled rows) : ∃ stored batch, storedSchema t = .ok stored ∧
    layout stored rows = .ok batch ∧ batch.rows = .ok rows := by
  obtain ⟨stored, ok, shown, -⟩ := storedSchema_of_typed fixture.distinct fixture.typed
  have takes := fixture.takes filled shown
  refine ⟨stored, stored.laidBatch rows, ok, layout_of_takes takes, ?_⟩
  apply rows_laidBatch <;> apply fixture.field shown <;> simp

/-- Rows are laid out for the fixture columns and read back as they were, and for no other fields
but fixture columns that they fill. Otherwise there is a decimal that no batch has, or else the data
is told to be unexpected. -/
theorem rows_kept_by_layout (rows : List Row) :
    (∀ t : TableSchema, t.FixtureColumns → t.Filled rows → ∃ stored batch,
      storedSchema t = .ok stored ∧ layout stored rows = .ok batch ∧ batch.rows = .ok rows) ∧
    (∀ s : FieldSchema, s.Flat →
      ((∃ error, layout s rows = .error error) ↔ s.Unfit rows) ∧
      ((∃ fault, layout s rows = .error (decimalError fault)) ↔
        ∃ f ∈ s.fields, f.type.BeyondBatch) ∧
      ((∃ text, layout s rows = .error (.unexpectedData text)) ↔
        s.Unfit rows ∧ ∀ f ∈ s.fields, ¬ f.type.BeyondBatch)) := by
  refine ⟨fun t fixture filled => layout_of_fixtureColumns fixture filled, fun s flat => ?_⟩
  have within := flat.decimalFault?_eq_none_iff
  rcases layout_cases s rows with ⟨takes, whole, ok⟩ | ⟨unfit, fault, found, fails⟩ |
    ⟨unfit, whole, text, fails⟩
  · have fit := not_unfit_iff.mpr takes
    have none_beyond := within.mp whole
    refine ⟨iff_of_false ?_ fit, iff_of_false ?_ ?_, iff_of_false ?_ fun h => fit h.1⟩
    · simp [ok]
    · simp [ok]
    · simpa using none_beyond
    · simp [ok]
  · have beyond : ¬ ∀ f ∈ s.fields, ¬ f.type.BeyondBatch := by
      rw [← within, found]
      nofun
    refine ⟨iff_of_true ⟨_, fails⟩ unfit, iff_of_true ⟨_, fails⟩ ?_,
      iff_of_false ?_ fun h => beyond h.2⟩
    · simpa using beyond
    · simp [fails, decimalError]
  · have none_beyond := within.mp whole
    refine ⟨iff_of_true ⟨_, fails⟩ unfit, iff_of_false ?_ ?_,
      iff_of_true ⟨text, fails⟩ ⟨unfit, none_beyond⟩⟩
    · simp [fails, decimalError]
    · simpa using none_beyond

/-- A column in front of the identifiers, a required one without a value, and a decimal. -/
theorem three_layouts :
    let t : TableSchema := ⟨[⟨"floats", .float, true⟩, ⟨"id", .long, false⟩,
      ⟨"strings", .string, true⟩]⟩
    let required : FieldSchema := ⟨[⟨1, "strings", .primitive .string, true⟩]⟩
    let decimal : FieldSchema := ⟨[⟨1, "id", .primitive .long, false⟩,
      ⟨2, "d", .primitive (.decimal 2 5), false⟩]⟩
    let rows : List Row := ⟨some 3, none, none⟩ :: fixtureRows
    t.FixtureColumns ∧ t.Filled rows ∧ required.Flat ∧ decimal.Flat ∧
      (∃ stored batch, storedSchema t = .ok stored ∧ layout stored rows = .ok batch ∧
        batch.rows = .ok rows) ∧
      (∃ text, layout required rows = .error (.unexpectedData text)) ∧
      ∃ fault, layout decimal rows = .error (decimalError fault) := by
  intro t required decimal rows
  have fixture : t.FixtureColumns := ⟨false, true, true, by decide⟩
  have filled : t.Filled rows := by
    simp [TableSchema.Filled, t, rows, fixtureRows, Row.cell?]
  have flat : required.Flat := by simp [Flat, required]
  have flat' : decimal.Flat := by simp [Flat, decimal]
  obtain ⟨kept, -⟩ := rows_kept_by_layout rows
  obtain ⟨-, -, unexpected⟩ := (rows_kept_by_layout rows).2 required flat
  obtain ⟨-, beyond, -⟩ := (rows_kept_by_layout rows).2 decimal flat'
  refine ⟨fixture, filled, flat, flat', kept t fixture filled, unexpected.mpr ⟨?_, ?_⟩,
    beyond.mpr ?_⟩
  · simp [Unfit, required, rows, Row.cell?]
  · simp [required, FieldType.BeyondBatch]
  · simp [decimal, FieldType.BeyondBatch]

/-- Rows that do not fit are not told to be unexpected data when a decimal is in front of them. -/
theorem decimal_before_rows :
    let s : FieldSchema := ⟨[⟨1, "id", .primitive .long, false⟩,
      ⟨2, "d", .primitive (.decimal 2 5), false⟩]⟩
    s.Flat ∧ (s.fields.map (·.name)).Nodup ∧ s.Unfit fixtureRows ∧
      ¬ ∃ text, layout s fixtureRows = .error (.unexpectedData text) := by
  intro s
  have told : layout s fixtureRows = .error (decimalError .together) := rfl
  refine ⟨by simp [Flat, s], by simp [s], by simp [Unfit, s], ?_⟩
  rintro ⟨text, other⟩
  rw [told] at other
  cases other

end RestSession

end CatalogMigration
