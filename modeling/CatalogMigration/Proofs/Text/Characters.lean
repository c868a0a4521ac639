import Mathlib.Data.List.TakeDrop

namespace CatalogMigration.Text

theorem toNat_of_isAlphanum {c : Char} (alphanum : c.isAlphanum = true) :
    48 ≤ c.toNat ∧ c.toNat ≤ 57 ∨ 65 ≤ c.toNat ∧ c.toNat ≤ 90 ∨
      97 ≤ c.toNat ∧ c.toNat ≤ 122 := by
  have ranges : (decide ('A'.val ≤ c.val ∧ c.val ≤ 'Z'.val) ||
      (decide ('a'.val ≤ c.val) && decide (c.val ≤ 'z'.val)) ||
      (decide ('0'.val ≤ c.val) && decide (c.val ≤ '9'.val))) = true := alphanum
  simp only [Bool.or_eq_true, Bool.and_eq_true, decide_eq_true_eq,
    UInt32.le_iff_toNat_le] at ranges
  have ranges : ((65 ≤ c.toNat ∧ c.toNat ≤ 90) ∨ (97 ≤ c.toNat ∧ c.toNat ≤ 122)) ∨
      (48 ≤ c.toNat ∧ c.toNat ≤ 57) := ranges
  omega

@[elab_as_elim]
theorem forall_ascii {P : Char → Prop} {c : Char} (ascii : c.toNat < 128)
    (each : ∀ n, n < 128 → P (Char.ofNat n)) : P c := by
  have holds := each c.toNat ascii
  rwa [Char.ofNat_toNat] at holds

section Run

variable {p : Char → Bool} {run rest : List Char}

theorem span_append (inside : ∀ c ∈ run, p c = true)
    (ends : ∀ c, rest.head? = some c → p c = false) : (run ++ rest).span p = (run, rest) := by
  rw [List.span_eq_takeWhile_dropWhile, List.takeWhile_append_of_pos inside,
    List.dropWhile_append_of_pos inside]
  cases rest with
  | nil => simp
  | cons c rest => simp [ends c rfl]

theorem span_eq_self (inside : ∀ c ∈ run, p c = true) : run.span p = (run, []) := by
  have whole := @span_append p run [] inside (by simp)
  rwa [List.append_nil] at whole

end Run

end CatalogMigration.Text
