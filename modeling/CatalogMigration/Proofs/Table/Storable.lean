import CatalogMigration.Table.FieldSchema

namespace CatalogMigration

namespace TableSchema

/-- A column has no stored type, or two columns share a name. -/
def Unstorable (s : TableSchema) : Prop :=
  (∃ column ∈ s.columns, ∃ type, column.type = .other type) ∨ ¬ (s.columns.map (·.name)).Nodup

end TableSchema

namespace FieldSchema

theorem fieldType?_eq_none_iff (type : ColumnType) :
    type.fieldType? = none ↔ ∃ name, type = .other name := by
  cases type <;> simp [ColumnType.fieldType?]

theorem numbered_names {columns : List Column} {next : Nat} {fields : List Field}
    (ok : numbered next columns = .ok fields) : fields.map (·.name) = columns.map (·.name) := by
  induction columns generalizing next fields with
  | nil =>
    cases ok
    rfl
  | cons column rest ih =>
    rw [numbered] at ok
    cases stored : column.type.fieldType? with
    | none => simp [stored] at ok
    | some type =>
      cases others : numbered (next + 1) rest with
      | error fault => simp [stored, others, bind, Except.bind] at ok
      | ok fields' =>
        simp only [stored, others, bind, Except.bind, pure, Except.pure, Except.ok.injEq] at ok
        subst ok
        simp [ih others]

theorem numbered_ok_iff (columns : List Column) (next : Nat) :
    (∃ fields, numbered next columns = .ok fields) ↔
      ∀ column ∈ columns, ∀ type, column.type ≠ .other type := by
  induction columns generalizing next with
  | nil => simp [numbered]
  | cons column rest ih =>
    rw [numbered, List.forall_mem_cons, ← ih (next + 1)]
    cases stored : column.type.fieldType? with
    | none =>
      obtain ⟨type, other⟩ := (fieldType?_eq_none_iff _).mp stored
      simp [other]
    | some type =>
      have known : ∀ name, column.type ≠ .other name := fun name other => by
        simp [(fieldType?_eq_none_iff _).mpr ⟨name, other⟩] at stored
      cases numbered (next + 1) rest with
      | error fault => simp [bind, Except.bind]
      | ok fields => simp [known, bind, Except.bind, pure, Except.pure]

theorem repeated?_eq_none_iff (seen fields : List Field) :
    repeated? seen fields = none ↔
      (fields.map (·.name)).Nodup ∧ ∀ f ∈ fields, ∀ g ∈ seen, g.name ≠ f.name := by
  -- The fields seen so far grow with every step.
  induction fields generalizing seen with
  | nil => simp [repeated?]
  | cons f fs ih =>
    rw [repeated?]
    cases found : seen.find? (·.name = f.name) with
    | some earlier =>
      have same : earlier.name = f.name := by simpa using List.find?_some found
      have member := List.mem_of_find?_eq_some found
      simp only [reduceCtorEq, false_iff]
      exact fun ⟨_, apart⟩ => apart f (by simp) earlier member same
    | none =>
      have apart : ∀ g ∈ seen, g.name ≠ f.name := by simpa using found
      simp only [ih, List.map_cons, List.nodup_cons, List.mem_map, List.mem_append,
        List.forall_mem_cons]
      constructor
      · rintro ⟨distinct, others⟩
        refine ⟨⟨?_, distinct⟩, apart, fun g member h seen => others g member h (.inl seen)⟩
        rintro ⟨g, member, same⟩
        exact others g member f (.inr (by simp)) same.symm
      · rintro ⟨⟨unlike, distinct⟩, -, others⟩
        refine ⟨distinct, fun g member h among => ?_⟩
        rcases among with among | last
        · exact others g member h among
        · rw [List.mem_singleton.mp last]
          exact fun same => unlike ⟨g, member, same.symm⟩

theorem ofSchema_error_iff (s : TableSchema) :
    (∃ fault, ofSchema s = .error fault) ↔ s.Unstorable := by
  rw [ofSchema, TableSchema.Unstorable]
  cases numbered_eq : numbered 1 s.columns with
  | error fault =>
    have untyped : ¬ ∃ fields, numbered 1 s.columns = .ok fields := by simp [numbered_eq]
    rw [numbered_ok_iff] at untyped
    simp only [Classical.not_forall, Classical.not_not] at untyped
    obtain ⟨column, member, type, other⟩ := untyped
    simp only [bind, Except.bind, Except.error.injEq, exists_eq', true_iff]
    exact .inl ⟨column, member, type, other⟩
  | ok fields =>
    have typed := (numbered_ok_iff s.columns 1).mp ⟨fields, numbered_eq⟩
    have unnamed : ¬ (∃ column ∈ s.columns, ∃ type, column.type = .other type) := by
      rintro ⟨column, member, type, other⟩
      exact typed column member type other
    rw [← numbered_names numbered_eq]
    have distinct := repeated?_eq_none_iff [] fields
    cases again : repeated? [] fields with
    | none =>
      rw [again] at distinct
      simp only [bind, Except.bind, again, pure, Except.pure]
      simp [unnamed, (distinct.mp rfl).1]
    | some fault =>
      rw [again] at distinct
      simp only [bind, Except.bind, again, throw, throwThe, MonadExceptOf.throw]
      simp only [List.not_mem_nil, false_implies, implies_true, and_true, reduceCtorEq,
        false_iff] at distinct
      simp [distinct]

end FieldSchema

end CatalogMigration
