import CatalogMigration.Table.Scan
import Mathlib.Data.List.Sort

namespace CatalogMigration

namespace Row

def NotAfter (a b : Row) : Prop := a.notAfter b = true

instance : DecidableRel NotAfter := fun a b => inferInstanceAs (Decidable (a.notAfter b = true))

instance : Std.Total NotAfter where
  total a b := by
    unfold NotAfter notAfter
    cases a.id <;> cases b.id <;> simp [Int.le_total]

instance : IsTrans Row NotAfter where
  trans a b c := by
    unfold NotAfter notAfter
    cases a.id <;> cases b.id <;> cases c.id <;> simp
    exact Int.le_trans

theorem id_eq_of_notAfter {a b : Row} (before : a.NotAfter b) (after : b.NotAfter a) :
    a.id = b.id := by
  unfold NotAfter notAfter at before after
  cases ha : a.id <;> cases hb : b.id <;> simp_all
  omega

theorem place_eq_orderedInsert (r : Row) (rows : List Row) :
    r.place rows = rows.orderedInsert NotAfter r := by
  induction rows with
  | nil => rfl
  | cons x xs ih =>
    rw [List.orderedInsert_cons, ← ih]
    rfl

end Row

theorem sortedRows_eq_insertionSort (rows : List Row) :
    sortedRows rows = rows.insertionSort Row.NotAfter := by
  induction rows with
  | nil => rfl
  | cons r rows ih =>
    rw [List.insertionSort_cons, ← Row.place_eq_orderedInsert, ← ih]
    rfl

theorem sortedRows_perm (rows : List Row) : (sortedRows rows).Perm rows := by
  rw [sortedRows_eq_insertionSort]
  exact List.perm_insertionSort ..

theorem sortedRows_pairwise (rows : List Row) : (sortedRows rows).Pairwise Row.NotAfter := by
  rw [sortedRows_eq_insertionSort]
  exact List.pairwise_insertionSort ..

theorem sortedRows_eq_of_perm {a b : List Row} (distinct : (a.map (·.id)).Nodup) (perm : a.Perm b) :
    sortedRows a = sortedRows b := by
  have sorted : (sortedRows a).Perm (sortedRows b) :=
    ((sortedRows_perm a).trans perm).trans (sortedRows_perm b).symm
  refine List.Perm.eq_of_pairwise ?_ (sortedRows_pairwise a) (sortedRows_pairwise b) sorted
  intro x y first second before after
  have here : x ∈ a := (sortedRows_perm a).mem_iff.mp first
  have there : y ∈ a := perm.mem_iff.mpr ((sortedRows_perm b).mem_iff.mp second)
  exact List.inj_on_of_nodup_map distinct here there (Row.id_eq_of_notAfter before after)

namespace Row

/-- A row whose number equals itself alone. -/
def Ordinary (r : Row) : Prop := ∀ x ∈ r.floats, x.isNaN = false ∧ x.isZero = false

theorem single_same_iff {x y : Numeral.Single} (number : y.isNaN = false)
    (nonzero : y.isZero = false) : x.same y = true ↔ x = y := by
  constructor
  · intro same
    simp only [Numeral.Binary.same, nonzero, Bool.and_false, Bool.or_false, Bool.and_eq_true,
      beq_iff_eq] at same
    cases x
    cases y
    exact congrArg _ same.2
  · rintro rfl
    simp [Numeral.Binary.same, number]

theorem same_iff {a b : Row} (ordinary : b.Ordinary) : a.same b = true ↔ a = b := by
  obtain ⟨i, s, x⟩ := a
  obtain ⟨j, t, y⟩ := b
  cases x with
  | none => cases y <;> simp [same]
  | some x =>
    cases y with
    | none => simp [same]
    | some y =>
      obtain ⟨number, nonzero⟩ := ordinary y rfl
      simp [same, single_same_iff number nonzero, and_assoc]

end Row

theorem sameRows_iff {as bs : List Row} (ordinary : ∀ r ∈ bs, r.Ordinary) :
    sameRows as bs = true ↔ as = bs := by
  induction bs generalizing as with
  | nil => cases as <;> simp [sameRows]
  | cons b bs ih =>
    cases as with
    | nil => simp [sameRows]
    | cons a as =>
      simp [sameRows, Row.same_iff (ordinary b (by simp)),
        ih fun r member => ordinary r (by simp [member])]

theorem fixtureRows_ordinary : ∀ r ∈ fixtureRows, r.Ordinary := by
  unfold Row.Ordinary
  decide

theorem fixtureRows_distinct : (fixtureRows.map (·.id)).Nodup := by decide

theorem sortedRows_fixtureRows : sortedRows fixtureRows = fixtureRows := rfl

theorem sameRows_sortedRows_iff {rows : List Row} :
    sameRows (sortedRows rows) fixtureRows = true ↔ rows.Perm fixtureRows := by
  rw [sameRows_iff fixtureRows_ordinary]
  constructor
  · intro same
    exact same ▸ (sortedRows_perm rows).symm
  · intro perm
    exact (sortedRows_eq_of_perm fixtureRows_distinct perm.symm).symm.trans sortedRows_fixtureRows

namespace Fixture

variable {t : Fixture} {scan : TableScan}

theorem verify_of_other_schema (other : scan.schema ≠ t.schema) :
    t.verify scan = .error (.schemaMismatch t.schema scan.schema) := if_pos other

theorem verify_of_other_rows (same : scan.schema = t.schema)
    (other : ¬ scan.rows.Perm fixtureRows) :
    t.verify scan = .error (.rowMismatch fixtureRows (sortedRows scan.rows)) := by
  rw [verify, if_neg (not_not.mpr same)]
  exact if_neg (mt sameRows_sortedRows_iff.mp other)

theorem verify_of_perm (same : scan.schema = t.schema) (rows : scan.rows.Perm fixtureRows) :
    t.verify scan = .ok () := by
  rw [verify, if_neg (not_not.mpr same)]
  exact if_pos (sameRows_sortedRows_iff.mpr rows)

end Fixture

end CatalogMigration
