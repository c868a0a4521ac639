import CatalogMigration.Proofs.Table.Shown
import CatalogMigration.Rest.Session

namespace CatalogMigration

namespace RestSession

open FieldSchema

variable {s : TableSchema}

theorem storedSchema_of_typed (distinct : (s.columns.map (·.name)).Nodup) (typed : s.Typed) :
    ∃ stored, storedSchema s = .ok stored ∧ stored.toSchema = s ∧
      stored.fields.map (·.id) = List.range' 1 s.columns.length := by
  obtain ⟨fields, ok⟩ := (numbered_ok_iff s.columns 1).mpr typed
  obtain ⟨columns, ids⟩ := numbered_shown ok
  have unlike : repeated? [] fields = none := by
    rw [repeated?_eq_none_iff, numbered_names ok]
    exact ⟨distinct, fun _ _ _ none => absurd none List.not_mem_nil⟩
  refine ⟨⟨fields⟩, ?_, ?_, ids⟩
  · rw [storedSchema, ofSchema, ok]
    simp only [bind, Except.bind, unlike]
    rfl
  · rw [toSchema, columns]

theorem storedSchema_of_other {front back : List Column} {column : Column} {type : String}
    (split : s.columns = front ++ column :: back)
    (typed : ∀ c ∈ front, ∀ type, c.type ≠ .other type) (other : column.type = .other type) :
    storedSchema s =
      .error (.unexpectedData ("cannot create column " ++ column.name ++ " of type " ++ type)) := by
  rw [storedSchema, ofSchema, split, numbered_of_other typed other]
  rfl

theorem typed_of_storedSchema {stored : FieldSchema} (ok : storedSchema s = .ok stored) :
    s.Typed := by
  cases fields : numbered 1 s.columns with
  | ok fields' => exact (numbered_ok_iff s.columns 1).mp ⟨fields', fields⟩
  | error fault =>
    rw [storedSchema, ofSchema, fields] at ok
    cases ok

/-- A schema whose columns have names of their own is stored just when they all have stored types,
under numbers from one on, and is shown as it was. A schema that is shown with such types only is
stored in one way, numbers apart. -/
theorem schemas_shown_as_stored (s : TableSchema) (distinct : (s.columns.map (·.name)).Nodup) :
    ((∃ stored, storedSchema s = .ok stored) ↔ s.Typed) ∧
    (∀ stored, storedSchema s = .ok stored →
      stored.toSchema = s ∧ stored.fields.map (·.id) = List.range' 1 s.columns.length) ∧
    (∀ front column back type, s.columns = front ++ column :: back →
      (∀ c ∈ front, ∀ type, c.type ≠ .other type) → column.type = .other type →
      storedSchema s = .error
        (.unexpectedData ("cannot create column " ++ column.name ++ " of type " ++ type))) ∧
    (∀ stored : FieldSchema, List.Forall₂ Field.ShownAs stored.fields stored.toSchema.columns) ∧
    (∀ a b : FieldSchema, a.toSchema = b.toSchema → a.toSchema.Typed →
      List.Forall₂ Field.Alike a.fields b.fields) := by
  refine ⟨⟨?_, ?_⟩, ?_, ?_, FieldSchema.shown, ?_⟩
  · rintro ⟨stored, ok⟩
    exact typed_of_storedSchema ok
  · intro typed
    obtain ⟨stored, ok, -⟩ := storedSchema_of_typed distinct typed
    exact ⟨stored, ok⟩
  · intro stored ok
    obtain ⟨other, again, shown, ids⟩ := storedSchema_of_typed distinct (typed_of_storedSchema ok)
    rw [ok] at again
    cases again
    exact ⟨shown, ids⟩
  · intro front column back type split typed other
    exact storedSchema_of_other split typed other
  · intro a b same typed
    apply alike_of_shown (congrArg TableSchema.columns same)
    intro f member
    exact typed f.column (List.mem_map_of_mem member)

/-- A required column stays required, and of two columns without stored types the first is told. -/
theorem second_column_untyped :
    let stored : TableSchema := ⟨[⟨"b", .float, false⟩, ⟨"a", .long, true⟩]⟩
    let refused : TableSchema := ⟨[⟨"a", .long, true⟩, ⟨"d", .other "double", true⟩,
      ⟨"e", .other "date", false⟩]⟩
    (stored.columns.map (·.name)).Nodup ∧ (refused.columns.map (·.name)).Nodup ∧
      (∃ fields, storedSchema stored = .ok fields ∧ fields.toSchema = stored ∧
        fields.fields.map (·.id) = [1, 2]) ∧
      storedSchema refused =
        .error (.unexpectedData "cannot create column d of type double") := by
  intro stored refused
  have distinct : (stored.columns.map (·.name)).Nodup := by decide
  have distinct' : (refused.columns.map (·.name)).Nodup := by decide
  obtain ⟨accepted, kept, -⟩ := schemas_shown_as_stored stored distinct
  obtain ⟨-, -, told, -⟩ := schemas_shown_as_stored refused distinct'
  have typed : stored.Typed := by simp [TableSchema.Typed, stored]
  obtain ⟨fields, ok⟩ := accepted.mpr typed
  refine ⟨distinct, distinct', ⟨fields, ok, kept fields ok⟩, ?_⟩
  exact told [⟨"a", .long, true⟩] ⟨"d", .other "double", true⟩ _ "double" rfl (by simp) rfl

end RestSession

end CatalogMigration
