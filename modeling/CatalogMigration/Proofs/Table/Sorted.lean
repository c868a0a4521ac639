import CatalogMigration.Proofs.Table.Aligned
import Mathlib.Data.List.Forall2

namespace CatalogMigration

open Row

namespace Row

theorem notAfter_iff {a b : Row} : a.NotAfter b ↔ ∀ x ∈ a.id, ∃ y ∈ b.id, x ≤ y := by
  unfold NotAfter notAfter
  cases a.id <;> cases b.id <;> simp

theorem notAfter_of_id_eq {a b : Row} (same : a.id = b.id) : a.NotAfter b :=
  notAfter_iff.mpr fun x there => ⟨x, same ▸ there, le_rfl⟩

end Row

/-- The rows of one identifier, in the order they are listed. -/
def rowsOf (id : Option Int) (rows : List Row) : List Row := rows.filter (·.id = id)

section
variable {id : Option Int} {r x : Row} {rows others : List Row}

theorem rowsOf_cons_of_eq (own : r.id = id) : rowsOf id (r :: rows) = r :: rowsOf id rows :=
  List.filter_cons_of_pos (decide_eq_true own)

theorem rowsOf_cons_of_ne (other : r.id ≠ id) : rowsOf id (r :: rows) = rowsOf id rows :=
  List.filter_cons_of_neg (by simpa using other)

theorem rowsOf_cons_congr (same : rowsOf id rows = rowsOf id others) :
    rowsOf id (r :: rows) = rowsOf id (r :: others) := by
  by_cases own : r.id = id
  · rw [rowsOf_cons_of_eq own, rowsOf_cons_of_eq own, same]
  · rw [rowsOf_cons_of_ne own, rowsOf_cons_of_ne own, same]

theorem rowsOf_swap (other : r.id ≠ x.id) :
    rowsOf id (r :: x :: rows) = rowsOf id (x :: r :: rows) := by
  by_cases own : r.id = id
  · have foreign : x.id ≠ id := own ▸ other.symm
    rw [rowsOf_cons_of_ne foreign]
    exact rowsOf_cons_congr (rowsOf_cons_of_ne foreign)
  · rw [rowsOf_cons_of_ne own]
    exact rowsOf_cons_congr (rowsOf_cons_of_ne own).symm

end

theorem rowsOf_place (id : Option Int) (r : Row) (rows : List Row) :
    rowsOf id (r.place rows) = rowsOf id (r :: rows) := by
  induction rows with
  | nil => rfl
  | cons x xs ih =>
    rw [place]
    split
    case isTrue => rfl
    case isFalse passed =>
      have other : r.id ≠ x.id := fun same => passed (notAfter_of_id_eq same)
      calc rowsOf id (x :: r.place xs)
          = rowsOf id (x :: r :: xs) := rowsOf_cons_congr ih
        _ = rowsOf id (r :: x :: xs) := (rowsOf_swap other).symm

theorem rowsOf_sortedRows (id : Option Int) (rows : List Row) :
    rowsOf id (sortedRows rows) = rowsOf id rows := by
  induction rows with
  | nil => rfl
  | cons r rows ih => exact (rowsOf_place id r (sortedRows rows)).trans (rowsOf_cons_congr ih)

example : sortedRows [⟨some 2, some "x", none⟩, ⟨some 1, some "b", none⟩, ⟨some 1, some "a", none⟩] =
    [⟨some 1, some "b", none⟩, ⟨some 1, some "a", none⟩, ⟨some 2, some "x", none⟩] := by
  decide

theorem head_notAfter {x y : Row} {xs : List Row} (ordered : (x :: xs).Pairwise NotAfter)
    (found : rowsOf y.id (x :: xs) ≠ []) : x.NotAfter y := by
  obtain ⟨z, found⟩ := List.exists_mem_of_ne_nil _ found
  obtain ⟨member, own⟩ := List.mem_filter.mp found
  have level : z.NotAfter y := notAfter_of_id_eq (of_decide_eq_true own)
  rcases List.mem_cons.mp member with rfl | later
  · exact level
  · exact IsTrans.trans x z y (List.rel_of_pairwise_cons ordered later) level

theorem rowsOf_ne_nil_of_length {y : Row} {xs ys : List Row}
    (level : (rowsOf y.id xs).length = (rowsOf y.id (y :: ys)).length) : rowsOf y.id xs ≠ [] := by
  rw [rowsOf_cons_of_eq rfl] at level
  exact List.ne_nil_of_length_eq_add_one level

theorem forall₂_of_rowsOf {R : Row → Row → Prop} {as bs : List Row}
    (orderedAs : as.Pairwise NotAfter) (orderedBs : bs.Pairwise NotAfter)
    (each : ∀ id, List.Forall₂ R (rowsOf id as) (rowsOf id bs)) : List.Forall₂ R as bs := by
  induction as generalizing bs with
  | nil =>
    cases bs with
    | nil => exact .nil
    | cons y ys => exact absurd rfl (rowsOf_ne_nil_of_length (each y.id).length_eq)
  | cons x xs ih =>
    cases bs with
    | nil => exact absurd rfl (rowsOf_ne_nil_of_length (each x.id).length_eq.symm)
    | cons y ys =>
      -- Each list has a row of the other's first identifier, so neither first row comes after.
      have here : x.NotAfter y :=
        head_notAfter orderedAs (rowsOf_ne_nil_of_length (each y.id).length_eq)
      have there : y.NotAfter x :=
        head_notAfter orderedBs (rowsOf_ne_nil_of_length (each x.id).length_eq.symm)
      have same : x.id = y.id := id_eq_of_notAfter here there
      obtain ⟨first, rest⟩ : R x y ∧ List.Forall₂ R (rowsOf x.id xs) (rowsOf x.id ys) := by
        have own := each x.id
        rw [rowsOf_cons_of_eq rfl, rowsOf_cons_of_eq same.symm] at own
        exact List.forall₂_cons.mp own
      refine .cons first (ih orderedAs.tail orderedBs.tail fun id => ?_)
      by_cases own : x.id = id
      · exact own ▸ rest
      · have others := each id
        rwa [rowsOf_cons_of_ne own, rowsOf_cons_of_ne (same ▸ own)] at others

theorem forall₂_sortedRows_iff {R : Row → Row → Prop} {a b : List Row}
    (keeps : ∀ x y, R x y → x.id = y.id) : List.Forall₂ R (sortedRows a) (sortedRows b) ↔
      ∀ id, List.Forall₂ R (rowsOf id a) (rowsOf id b) := by
  constructor
  · intro sorted id
    rw [← rowsOf_sortedRows id a, ← rowsOf_sortedRows id b]
    exact List.rel_filter (fun x y agree => by simp [keeps x y agree]) sorted
  · intro each
    refine forall₂_of_rowsOf (sortedRows_pairwise a) (sortedRows_pairwise b) fun id => ?_
    rw [rowsOf_sortedRows, rowsOf_sortedRows]
    exact each id

theorem sortedRows_eq_iff {a b : List Row} :
    sortedRows a = sortedRows b ↔ ∀ id, rowsOf id a = rowsOf id b := by
  have identical := forall₂_sortedRows_iff (R := Eq) (a := a) (b := b) fun _ _ => congrArg Row.id
  simpa only [List.forall₂_eq_eq_eq] using identical

theorem sortedRows_sortedRows (rows : List Row) : sortedRows (sortedRows rows) = sortedRows rows :=
  sortedRows_eq_iff.mpr fun id => rowsOf_sortedRows id rows

theorem Row.id_eq_of_same {x y : Row} (same : x.same y = true) : x.id = y.id := by
  simp only [Row.same, Bool.and_eq_true, beq_iff_eq] at same
  exact same.1.1

theorem sameRows_iff_forall₂ {as bs : List Row} :
    sameRows as bs = true ↔ List.Forall₂ (fun x y => x.same y = true) as bs := by
  induction as generalizing bs with
  | nil => cases bs <;> simp [sameRows]
  | cons a as ih => cases bs <;> simp [sameRows, ih]

theorem sameRows_sorted_iff {a b : List Row} :
    sameRows (sortedRows a) (sortedRows b) = true ↔
      ∀ id, sameRows (rowsOf id a) (rowsOf id b) = true := by
  simp only [sameRows_iff_forall₂]
  exact forall₂_sortedRows_iff fun _ _ => id_eq_of_same

namespace TableScan

/-- Two scans that come to the same in the order of the rows: as a batch, as a text, and in every
verdict, with the rows a mismatch names. -/
structure ShownAlike (s s' : TableScan) : Prop where
  sorted : s.sortedRows = s'.sortedRows
  batch : s.toBatch = s'.toBatch
  text : s.display = s'.display
  verdicts : ∀ t : Fixture, t.verify s = t.verify s'

theorem shownAlike_of_sorted {s s' : TableScan} (schema : s.schema = s'.schema)
    (sorted : s.sortedRows = s'.sortedRows) : s.ShownAlike s' := by
  have batch : s.toBatch = s'.toBatch := by rw [toBatch, toBatch, schema, sorted]
  have count : s.rows.length = s'.rows.length := by
    rw [← length_sortedRows, sorted, length_sortedRows]
  refine ⟨sorted, batch, ?_, fun t => ?_⟩
  · rw [display, display, batch, count]
  · rw [Fixture.verify, Fixture.verify, schema, sorted]

end TableScan

/-- Sorting keeps the order among the rows of each identifier and no other: sorted rows are the
same just when that order was, also with numbers compared as numbers. What comes out are the rows
that went in, absent identifiers first, and sorting them again changes nothing. Scans of distinct
identifiers are shown and judged the same in whatever order their rows came. -/
theorem order_kept_within_ids (a b : List Row) :
    (sortedRows a = sortedRows b ↔ ∀ id, rowsOf id a = rowsOf id b) ∧
    (sameRows (sortedRows a) (sortedRows b) = true ↔
      ∀ id, sameRows (rowsOf id a) (rowsOf id b) = true) ∧
    (sortedRows a).Perm a ∧
    (sortedRows a).Pairwise (fun r s => ∀ x ∈ r.id, ∃ y ∈ s.id, x ≤ y) ∧
    sortedRows (sortedRows a) = sortedRows a ∧
    ((a.map (·.id)).Nodup → a.Perm b →
      ∀ schema, TableScan.ShownAlike ⟨schema, a⟩ ⟨schema, b⟩) := by
  refine ⟨sortedRows_eq_iff, sameRows_sorted_iff, sortedRows_perm a,
    (sortedRows_pairwise a).imp notAfter_iff.mp, sortedRows_sortedRows a, ?_⟩
  intro distinct perm schema
  exact TableScan.shownAlike_of_sorted rfl (sortedRows_eq_of_perm distinct perm)

open Numeral in
/-- Rows with and without an identifier, one of them with what is no number. -/
theorem shuffled_rows_shown_alike :
    let first : Row := ⟨none, some "n", none⟩
    let second : Row := ⟨some (-1), none, some (.nan .single)⟩
    let third : Row := ⟨some 2, some "b-string", some (.zero .single true)⟩
    let a := [third, first, second]
    let b := [second, third, first]
    let verdict : Except ReadFailure Unit :=
      .error (.rowMismatch fixtureRows [first, second, third])
    (a.map (·.id)).Nodup ∧ a.Perm b ∧ TableScan.ShownAlike ⟨.fixture, a⟩ ⟨.fixture, b⟩ ∧
      (Fixture.maintained "my_table_0").verify ⟨.fixture, a⟩ = verdict ∧
      (Fixture.maintained "my_table_0").verify ⟨.fixture, b⟩ = verdict := by
  intro first second third a b verdict
  have distinct : (a.map (·.id)).Nodup := by decide
  have perm : a.Perm b := by decide
  obtain ⟨-, -, -, -, -, unordered⟩ := order_kept_within_ids a b
  have alike := unordered distinct perm .fixture
  have mismatch : (Fixture.maintained "my_table_0").verify ⟨.fixture, a⟩ = verdict := by decide
  exact ⟨distinct, perm, alike, mismatch, (alike.verdicts _).symm.trans mismatch⟩

end CatalogMigration
