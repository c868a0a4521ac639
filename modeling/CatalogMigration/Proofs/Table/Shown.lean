import CatalogMigration.Proofs.Table.Layout
import CatalogMigration.Proofs.Table.Storable
import Mathlib.Data.List.Forall2

namespace CatalogMigration

namespace TableSchema

def Typed (s : TableSchema) : Prop := ∀ column ∈ s.columns, ∀ type, column.type ≠ .other type

end TableSchema

theorem FieldType.columnType_of_stored {c : ColumnType} {t : FieldType}
    (stored : c.fieldType? = some t) : t.columnType = c := by
  cases c <;> cases stored <;> rfl

theorem FieldType.columnType_eq_iff {c : ColumnType} {t u : FieldType}
    (stored : c.fieldType? = some u) : t.columnType = c ↔ t = u := by
  constructor
  · intro shown
    exact FieldType.eq_of_columnType shown stored
  · rintro rfl
    exact columnType_of_stored stored

theorem FieldType.columnType_of_other {t : FieldType} (long : t ≠ .primitive .long)
    (string : t ≠ .primitive .string) (float : t ≠ .primitive .float) :
    t.columnType = .other t.display := by
  unfold columnType
  split
  · exact absurd rfl long
  · exact absurd rfl string
  · exact absurd rfl float
  · rfl

namespace Field

/-- A field as a column of its name, nullable unless it is required. -/
structure ShownAs (f : Field) (c : Column) : Prop where
  name : c.name = f.name
  nullable : c.nullable = !f.required
  long : c.type = .long ↔ f.type = .primitive .long
  string : c.type = .string ↔ f.type = .primitive .string
  float : c.type = .float ↔ f.type = .primitive .float
  other : f.type ≠ .primitive .long → f.type ≠ .primitive .string → f.type ≠ .primitive .float →
    c.type = .other f.type.display

theorem column_shown (f : Field) : f.ShownAs f.column :=
  ⟨rfl, rfl, FieldType.columnType_eq_iff rfl, FieldType.columnType_eq_iff rfl,
    FieldType.columnType_eq_iff rfl, FieldType.columnType_of_other⟩

structure Alike (f g : Field) : Prop where
  name : f.name = g.name
  type : f.type = g.type
  required : f.required = g.required

theorem alike_of_column {f g : Field} (same : f.column = g.column)
    (typed : ∀ type, f.column.type ≠ .other type) : f.Alike g := by
  obtain ⟨u, stored⟩ : ∃ u, f.column.type.fieldType? = some u := by
    cases shown : f.column.type.fieldType? with
    | some u => exact ⟨u, rfl⟩
    | none =>
      obtain ⟨type, other⟩ := (FieldSchema.fieldType?_eq_none_iff _).mp shown
      exact absurd other (typed type)
  have first : f.type = u := FieldType.eq_of_columnType rfl stored
  have second : g.type = u := by
    apply FieldType.eq_of_columnType _ stored
    rw [same]
    rfl
  have nullable : (!f.required) = !g.required := congrArg Column.nullable same
  exact ⟨congrArg Column.name same, first.trans second.symm, Bool.not_inj nullable⟩

end Field

namespace FieldSchema

theorem shown (s : FieldSchema) : List.Forall₂ Field.ShownAs s.fields s.toSchema.columns := by
  rw [toSchema, List.forall₂_map_right_iff, List.forall₂_same]
  intro f _
  exact f.column_shown

theorem alike_of_shown {a b : List Field} (same : a.map Field.column = b.map Field.column)
    (typed : ∀ f ∈ a, ∀ type, f.column.type ≠ .other type) : List.Forall₂ Field.Alike a b := by
  induction a generalizing b with
  | nil =>
    obtain rfl : b = [] := List.map_eq_nil_iff.mp same.symm
    exact .nil
  | cons f a ih =>
    obtain ⟨g, b, rfl, head, tail⟩ := List.map_eq_cons_iff.mp same.symm
    obtain ⟨known, others⟩ := List.forall_mem_cons.mp typed
    exact .cons (Field.alike_of_column head.symm known) (ih tail.symm others)

theorem numbered_shown {columns : List Column} {next : Nat} {fields : List Field}
    (ok : numbered next columns = .ok fields) :
    fields.map Field.column = columns ∧
      fields.map (·.id) = List.range' next columns.length := by
  induction columns generalizing next fields with
  | nil =>
    cases ok
    exact ⟨rfl, rfl⟩
  | cons column rest ih =>
    rw [numbered] at ok
    cases stored : column.type.fieldType? with
    | none => simp [stored] at ok
    | some type =>
      cases others : numbered (next + 1) rest with
      | error fault => simp [stored, others, bind, Except.bind] at ok
      | ok later =>
        simp only [stored, others, bind, Except.bind, pure, Except.pure, Except.ok.injEq] at ok
        subst ok
        obtain ⟨columns, ids⟩ := ih others
        have first : Field.column ⟨next, column.name, type, !column.nullable⟩ = column := by
          rw [Field.column, FieldType.columnType_of_stored stored, Bool.not_not]
        constructor
        · rw [List.map_cons, first, columns]
        · rw [List.map_cons, ids, List.length_cons, List.range'_succ]

theorem numbered_of_other {front back : List Column} {column : Column} {type : String}
    (typed : ∀ c ∈ front, ∀ type, c.type ≠ .other type) (other : column.type = .other type)
    (next : Nat) : numbered next (front ++ column :: back) = .error (.noType column.name type) := by
  induction front generalizing next with
  | nil =>
    rw [List.nil_append, numbered, other]
    rfl
  | cons c front ih =>
    obtain ⟨known, others⟩ := List.forall_mem_cons.mp typed
    rw [List.cons_append, numbered]
    cases stored : c.type.fieldType? with
    | none =>
      obtain ⟨type, other⟩ := (fieldType?_eq_none_iff _).mp stored
      exact absurd other (known type)
    | some t =>
      rw [ih others]
      rfl

end FieldSchema

end CatalogMigration
