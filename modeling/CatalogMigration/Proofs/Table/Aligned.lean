import CatalogMigration.Proofs.Table.Cells
import CatalogMigration.Proofs.Table.Verdict

namespace CatalogMigration

open Numeral Text

def Row.cellIn? (r : Row) : Column → Option Cell
  | ⟨"id", .long, _⟩ => r.id.map .long
  | ⟨"strings", .string, _⟩ => r.strings.map .text
  | ⟨"floats", .float, _⟩ => r.floats.map .float
  | _ => none

theorem Row.cellIn?_of_fixture (r : Row) {c : Column} (own : fixtureType? c.name = some c.type) :
    r.cellIn? c = r.cell? c.name := by
  obtain ⟨name, type, nullable⟩ := c
  rcases fixtureType?_cases own with ⟨named, typed⟩ | ⟨named, typed⟩ | ⟨named, typed⟩
  all_goals
    cases named
    cases typed
    rfl

theorem Row.cellIn?_of_other (r : Row) {c : Column} (other : fixtureType? c.name ≠ some c.type) :
    r.cellIn? c = none := by
  unfold cellIn?
  split
  · exact absurd fixtureType?_id other
  · exact absurd fixtureType?_strings other
  · exact absurd fixtureType?_floats other
  · rfl

def Cell.shown : Option Cell → String
  | none => "NULL"
  | some (.long number) => signedText number
  | some (.text s) => s
  | some (.float number) => String.ofList (Style.tableSingle.render number)

theorem Values.shown_eq (v : Values) : v.shown = v.cells.map Cell.shown := by
  cases v with
  | longs cells | strings cells | floats cells =>
    rw [shown, Values.cells, List.map_map]
    apply List.map_congr_left
    intro cell _
    cases cell <;> rfl
  | absent count =>
    rw [shown, Values.cells, List.map_replicate]
    rfl

theorem ColumnType.valueType_eq_iff {a b : ColumnType} (known : ∀ name, a ≠ .other name) :
    a.valueType = b.valueType ↔ a = b := by
  cases a <;> cases b <;> simp_all [valueType]

theorem ColumnType.nulls_type (type : ColumnType) (count : Nat) :
    (Values.nulls type.valueType count).type = type.valueType := by
  cases type <;> rfl

namespace TableScan

theorem batchColumn_values (rows : List Row) (c : Column) :
    (batchColumn rows c).2.type = c.type.valueType ∧
      (batchColumn rows c).2.cells = rows.map (·.cellIn? c) := by
  have foreign (other : fixtureType? c.name ≠ some c.type) :
      (Values.nulls c.type.valueType rows.length).type = c.type.valueType ∧
        (Values.nulls c.type.valueType rows.length).cells = rows.map (·.cellIn? c) := by
    refine ⟨ColumnType.nulls_type _ _, ?_⟩
    rw [Values.cells_nulls]
    exact (List.map_eq_replicate_iff.mpr fun r _ => r.cellIn?_of_other other).symm
  rcases fixtureColumn?_cases c.name rows with
    ⟨unnamed, absent⟩ | ⟨type, values, named, found, typed, held⟩
  · rw [batchColumn, absent]
    apply foreign
    simp [unnamed]
  · rw [batchColumn, found]
    by_cases same : type = c.type
    · have matching : values.type = c.type.valueType := by rw [typed, same]
      simp only [matching, if_true]
      refine ⟨trivial, held.trans ?_⟩
      apply List.map_congr_left
      intro r _
      exact (r.cellIn?_of_fixture (by rw [named, same])).symm
    · have unlike : values.type ≠ c.type.valueType := by
        rw [typed]
        exact fun equal => same ((ColumnType.valueType_eq_iff (fixtureType?_ne_other named)).mp equal)
      simp only [unlike, if_false]
      apply foreign
      rw [named]
      exact fun equal => same (Option.some.inj equal)

/-- A batch of a scan: a column for every column of the schema, an entry for every row. -/
structure Aligned (s : TableScan) (b : Batch) : Prop where
  fields : b.fields = s.schema.columns.map fun c => ⟨c.name, c.type.valueType, true⟩
  types : b.columns.map Values.type = s.schema.columns.map (·.type.valueType)
  cells : b.columns.map Values.cells = s.schema.columns.map fun c => s.sortedRows.map (·.cellIn? c)
  lengths : ∀ v ∈ b.columns, v.length = s.rows.length
  rowCount : b.rowCount = s.rows.length

theorem length_sortedRows (s : TableScan) : s.sortedRows.length = s.rows.length :=
  (sortedRows_perm s.rows).length_eq

theorem columns_sound {s : TableScan} (nonempty : s.schema.columns ≠ []) :
    Batch.Sound s.rows.length (s.schema.columns.map (batchColumn s.sortedRows)) := by
  refine ⟨by simpa using nonempty, ?_, ?_, ?_⟩ <;> intro p member <;>
    obtain ⟨c, -, rfl⟩ := List.mem_map.mp member
  · rw [← Values.length_cells, (batchColumn_values _ _).2, List.length_map, length_sortedRows]
  · exact (batchColumn_values _ _).1
  · intro required
    cases required

theorem toBatch_of_columns {s : TableScan} (nonempty : s.schema.columns ≠ []) :
    ∃ batch, s.toBatch = .ok batch ∧ s.Aligned batch := by
  have sound := columns_sound nonempty
  refine ⟨_, Batch.ofColumns_of_sound sound, ?_, ?_, ?_, ?_, rfl⟩
  · rw [List.map_map]
    rfl
  · rw [List.map_map, List.map_map]
    exact List.map_congr_left fun c _ => (batchColumn_values _ c).1
  · rw [List.map_map, List.map_map]
    exact List.map_congr_left fun c _ => (batchColumn_values _ c).2
  · intro v member
    obtain ⟨p, there, rfl⟩ := List.mem_map.mp member
    exact sound.lengths p there

theorem toBatch_of_none {s : TableScan} (empty : s.schema.columns = []) :
    s.toBatch = .error .noColumns := by
  rw [toBatch, empty]
  rfl

def withoutTable (count : Nat) (reason : String) : String :=
  "<" ++ decimalText count ++ " scanned rows: " ++ reason ++ ">"

theorem display_of_none {s : TableScan} (empty : s.schema.columns = []) :
    s.display = withoutTable s.rows.length BatchFault.noColumns.message := by
  rw [display, toBatch_of_none empty]
  rfl

theorem display_of_columns {s : TableScan} (nonempty : s.schema.columns ≠ []) :
    s.display = Grid.render (s.schema.columns.map (·.name))
      (s.sortedRows.map fun r => s.schema.columns.map fun c => Cell.shown (r.cellIn? c)) := by
  obtain ⟨batch, ok, aligned⟩ := toBatch_of_columns nonempty
  have heading : batch.fields.map (·.name) = s.schema.columns.map (·.name) := by
    rw [aligned.fields, List.map_map]
    rfl
  have shown : batch.columns.map Values.shown =
      s.schema.columns.map fun c => s.sortedRows.map fun r => Cell.shown (r.cellIn? c) := by
    calc batch.columns.map Values.shown
        = (batch.columns.map Values.cells).map (·.map Cell.shown) := by
          rw [List.map_map]
          exact List.map_congr_left fun v _ => v.shown_eq
      _ = _ := by
          rw [aligned.cells, List.map_map]
          apply List.map_congr_left
          intro c _
          exact List.map_map
  rw [display, ok]
  dsimp only
  rw [heading, shown, aligned.rowCount]
  congr 1
  apply List.ext_getElem
  · rw [List.length_map, List.length_map, List.length_range, length_sortedRows]
  · intro i inside there
    have row : i < s.sortedRows.length := by simpa using there
    simp [List.getElem?_eq_getElem row]

theorem head_joinedWith (sep : List Char) (c : Char) (cs : List Char) (rest : List (List Char)) :
    (joinedWith sep ((c :: cs) :: rest)).head? = some c := by
  cases rest <;> rfl

theorem head_render (heading : List String) (rows : List (List String)) :
    (Grid.render heading rows).toList.head? = some '+' := by
  rw [Grid.render, String.toList_ofList, Grid.lines]
  exact head_joinedWith _ _ _ _

theorem display_ne_withoutTable {s : TableScan} (nonempty : s.schema.columns ≠ []) (count : Nat)
    (reason : String) : s.display ≠ withoutTable count reason := by
  intro same
  have table := head_render (s.schema.columns.map (·.name))
    (s.sortedRows.map fun r => s.schema.columns.map fun c => Cell.shown (r.cellIn? c))
  rw [← display_of_columns nonempty, same] at table
  simp [withoutTable] at table

/-- A scan has a batch just when it has a column, and is shown without a table just when it has
none. -/
theorem toBatch_aligned (s : TableScan) :
    ((∃ fault, s.toBatch = .error fault) ↔ s.schema.columns = []) ∧
    ((∃ count reason, s.display = withoutTable count reason) ↔ s.schema.columns = []) ∧
    (s.display = withoutTable s.rows.length BatchFault.noColumns.message ↔
      s.schema.columns = []) ∧
    ((∃ batch, s.toBatch = .ok batch ∧ s.Aligned batch ∧
        s.display = Grid.render (s.schema.columns.map (·.name)) (s.sortedRows.map fun r =>
          s.schema.columns.map fun c => Cell.shown (r.cellIn? c))) ↔
      s.schema.columns ≠ []) := by
  by_cases empty : s.schema.columns = []
  · have fails := toBatch_of_none empty
    have shown := display_of_none empty
    refine ⟨iff_of_true ⟨_, fails⟩ empty, iff_of_true ⟨_, _, shown⟩ empty, iff_of_true shown empty,
      iff_of_false ?_ (not_not_intro empty)⟩
    rintro ⟨batch, ok, -⟩
    rw [fails] at ok
    cases ok
  · obtain ⟨batch, ok, aligned⟩ := toBatch_of_columns empty
    have other := display_ne_withoutTable empty
    refine ⟨iff_of_false ?_ empty, iff_of_false ?_ empty, iff_of_false (other _ _) empty,
      iff_of_true ⟨batch, ok, aligned, display_of_columns empty⟩ empty⟩
    · rintro ⟨fault, fails⟩
      rw [fails] at ok
      cases ok
    · rintro ⟨count, reason, same⟩
      exact other count reason same

/-- A fixture column of another type and one of no such name are null throughout. -/
example : toBatch ⟨⟨[⟨"id", .long, false⟩, ⟨"strings", .float, true⟩, ⟨"other", .long, true⟩]⟩,
      [⟨some 2, some "a", none⟩, ⟨none, some "b", none⟩]⟩ =
    .ok ⟨[⟨"id", .long, true⟩, ⟨"strings", .float, true⟩, ⟨"other", .long, true⟩],
      [.longs [none, some 2], .floats [none, none], .longs [none, none]], 2⟩ := by
  rfl

end TableScan

end CatalogMigration
