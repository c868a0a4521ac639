import CatalogMigration.Table.FieldSchema

namespace CatalogMigration

open Numeral

theorem FieldType.eq_of_columnType {t u : FieldType} {c : ColumnType} (shown : t.columnType = c)
    (stored : c.fieldType? = some u) : t = u := by
  unfold columnType at shown
  split at shown <;> subst shown <;> cases stored <;> rfl

theorem Field.eq_of_column {f : Field} {name : String} {type : ColumnType} {u : FieldType}
    (shown : f.column = ⟨name, type, true⟩) (stored : type.fieldType? = some u) :
    f = ⟨f.id, name, u, false⟩ := by
  obtain ⟨id, own, t, required⟩ := f
  injection shown with names types nullable
  obtain rfl : t = u := FieldType.eq_of_columnType types stored
  cases names
  cases required
  · rfl
  · cases nullable

namespace FieldSchema

variable {s : FieldSchema}

theorem fields_of_fixture (same : s.toSchema = .fixture) :
    ∃ i j k, s.fields = [⟨i, "id", .primitive .long, false⟩,
      ⟨j, "strings", .primitive .string, false⟩, ⟨k, "floats", .primitive .float, false⟩] := by
  have columns : s.fields.map Field.column = TableSchema.fixture.columns :=
    congrArg TableSchema.columns same
  obtain ⟨f, rest, fields, first, columns⟩ := List.map_eq_cons_iff.mp columns
  obtain ⟨g, rest, rfl, second, columns⟩ := List.map_eq_cons_iff.mp columns
  obtain ⟨h, rest, rfl, third, columns⟩ := List.map_eq_cons_iff.mp columns
  obtain rfl := List.map_eq_nil_iff.mp columns
  refine ⟨f.id, g.id, h.id, fields.trans ?_⟩
  rw [← Field.eq_of_column first rfl, ← Field.eq_of_column second rfl,
    ← Field.eq_of_column third rfl]

def fixtureColumns (rows : List Row) : List (BatchField × Values) :=
  [(⟨"id", .long, true⟩, .longs (rows.map (·.id))),
    (⟨"strings", .string, true⟩, .strings (rows.map (·.strings))),
    (⟨"floats", .float, true⟩, .floats (rows.map (·.floats)))]

def fixtureBatch (rows : List Row) : Batch :=
  ⟨(fixtureColumns rows).map (·.1), (fixtureColumns rows).map (·.2), rows.length⟩

theorem ofColumns_fixture (rows : List Row) :
    Batch.ofColumns (fixtureColumns rows) = .ok (fixtureBatch rows) := by
  simp [fixtureBatch, fixtureColumns, Batch.ofColumns, Values.length, Batch.firstMismatch?,
    Values.type]

theorem rows_of_columns {b : Batch} {rows : List Row}
    (ids : b.column? "id" = some (.longs (rows.map (·.id))))
    (strings : b.column? "strings" = some (.strings (rows.map (·.strings))))
    (floats : b.column? "floats" = some (.floats (rows.map (·.floats)))) : b.rows = .ok rows := by
  rw [Batch.rows, Batch.longs, ids, Batch.strings, strings, Batch.floats, floats]
  show Except.ok (((rows.map (·.id)).zip ((rows.map (·.strings)).zip (rows.map (·.floats)))).map
    fun cells => Row.mk cells.1 cells.2.1 cells.2.2) = _
  rw [List.zip_map', List.zip_map', List.map_map]
  exact congrArg Except.ok (List.map_id rows)

theorem rows_fixtureBatch (rows : List Row) : (fixtureBatch rows).rows = .ok rows :=
  rows_of_columns rfl rfl rfl

theorem toBatch_of_fixture (same : s.toSchema = .fixture) (rows : List Row) :
    s.toBatch rows = .ok (fixtureBatch rows) ∧
      (fixtureBatch rows).fields = s.fields.map batchField := by
  obtain ⟨i, j, k, fields⟩ := fields_of_fixture same
  have laid : columns rows s.fields = .ok (fixtureColumns rows) := by
    rw [fields]
    rfl
  have whole : s.decimalFault? = none := by
    rw [decimalFault?, fields]
    rfl
  refine ⟨?_, by rw [fields]; rfl⟩
  rw [toBatch, whole, laid]
  show (Batch.ofColumns (fixtureColumns rows)).mapError LayoutFault.batch = _
  rw [ofColumns_fixture]
  rfl

end FieldSchema

end CatalogMigration
