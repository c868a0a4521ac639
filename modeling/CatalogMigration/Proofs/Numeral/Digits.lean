import CatalogMigration.Numeral.Digits
import Mathlib.Algebra.Group.Nat.Defs

namespace CatalogMigration.Numeral

theorem digitValue?_digitChar {d : Nat} (digit : d < 10) :
    digitValue? 10 (digitChar d) = some d ∧ isDigit (digitChar d) = true := by
  have all : ∀ e : Fin 10, digitValue? 10 (digitChar e) = some e.val ∧
      isDigit (digitChar e) = true := by decide
  exact all ⟨d, digit⟩

theorem hexDigitValue?_digitChar {d : Nat} (digit : d < 16) :
    digitValue? 16 (digitChar d) = some d := by
  have all : ∀ e : Fin 16, digitValue? 16 (digitChar e) = some e.val := by decide
  exact all ⟨d, digit⟩

def readDigits (base : Nat) (cs : List Char) : Option Nat :=
  cs.foldlM (fun n c => (digitValue? base c).map (n * base + ·)) 0

theorem value?_of_ne {base : Nat} {cs : List Char} (nonempty : cs ≠ []) :
    value? base cs = readDigits base cs := by
  cases cs with
  | nil => exact absurd rfl nonempty
  | cons c cs => rfl

theorem readDigits_concat {base n d : Nat} {cs : List Char} {c : Char}
    (front : readDigits base cs = some n) (digit : digitValue? base c = some d) :
    readDigits base (cs ++ [c]) = some (n * base + d) := by
  rw [readDigits, List.foldlM_append]
  show (readDigits base cs).bind _ = _
  rw [front]
  simp [digit]

theorem digitValue?_lt {base d : Nat} {c : Char} (digit : digitValue? base c = some d) :
    d < base := by
  rw [digitValue?, Option.ite_none_right_eq_some, Option.some.injEq] at digit
  exact digit.2 ▸ digit.1

theorem value?_lt {base n : Nat} {cs : List Char} (value : value? base cs = some n) :
    n < base ^ cs.length := by
  suffices each : ∀ (ds : List Char) (m : Nat),
      ds.foldlM (fun n c => (digitValue? base c).map (n * base + ·)) m = some n →
        n < (m + 1) * base ^ ds.length by
    cases cs with
    | nil => cases value
    | cons c cs => simpa using each (c :: cs) 0 value
  intro ds
  induction ds with
  | nil =>
    rintro m ⟨⟩
    simp
  | cons d ds ih =>
    intro m folded
    obtain ⟨m', step, folded⟩ := Option.bind_eq_some_iff.mp folded
    obtain ⟨x, digit, rfl⟩ := Option.map_eq_some_iff.mp step
    have below := digitValue?_lt digit
    have grown : m * base + x + 1 ≤ (m + 1) * base := by
      rw [Nat.add_mul]
      omega
    calc n < (m * base + x + 1) * base ^ ds.length := ih _ folded
      _ ≤ (m + 1) * base * base ^ ds.length := Nat.mul_le_mul_right _ grown
      _ = (m + 1) * base ^ (d :: ds).length := by
        rw [List.length_cons, Nat.pow_succ, Nat.mul_assoc, Nat.mul_comm base]

theorem decimal_ne_nil (n : Nat) : decimal n ≠ [] := by
  rw [decimal]
  split <;> simp

theorem isDigit_of_mem_decimal {n : Nat} {c : Char} (member : c ∈ decimal n) :
    isDigit c = true := by
  induction n using decimal.induct with
  | case1 n small =>
    rw [decimal, if_pos small, List.mem_singleton] at member
    rw [member]
    exact (digitValue?_digitChar small).2
  | case2 n large ih =>
    rw [decimal, if_neg large, List.mem_append, List.mem_singleton] at member
    rcases member with member | rfl
    · exact ih member
    · exact (digitValue?_digitChar (Nat.mod_lt n (by decide))).2

theorem value?_decimal (n : Nat) : value? 10 (decimal n) = some n := by
  rw [value?_of_ne (decimal_ne_nil n)]
  induction n using decimal.induct with
  | case1 n small =>
    have last := @readDigits_concat 10 0 _ [] _ rfl (digitValue?_digitChar small).1
    rw [decimal, if_pos small]
    simpa using last
  | case2 n large ih =>
    have digit := (digitValue?_digitChar (Nat.mod_lt n (by decide : 0 < 10))).1
    rw [decimal, if_neg large, readDigits_concat ih digit, Nat.mul_comm, Nat.div_add_mod]

theorem hexadecimal_ne_nil (n : Nat) : hexadecimal n ≠ [] := by
  rw [hexadecimal]
  split <;> simp

theorem value?_hexadecimal (n : Nat) : value? 16 (hexadecimal n) = some n := by
  rw [value?_of_ne (hexadecimal_ne_nil n)]
  induction n using hexadecimal.induct with
  | case1 n small =>
    have last := @readDigits_concat 16 0 _ [] _ rfl (hexDigitValue?_digitChar small)
    rw [hexadecimal, if_pos small]
    simpa using last
  | case2 n large ih =>
    have digit := hexDigitValue?_digitChar (Nat.mod_lt n (by decide : 0 < 16))
    rw [hexadecimal, if_neg large, readDigits_concat ih digit, Nat.mul_comm, Nat.div_add_mod]

theorem length_hexadecimal_le {n k : Nat} (bound : n < 16 ^ (k + 1)) :
    (hexadecimal n).length ≤ k + 1 := by
  induction k generalizing n with
  | zero =>
    rw [hexadecimal, if_pos (by simpa using bound)]
    exact Nat.le_refl 1
  | succ k ih =>
    rw [hexadecimal]
    split
    · simp
    · rw [List.length_append, List.length_singleton]
      have shorter := ih (n := n / 16) (by omega)
      omega

def isHexDigit (c : Char) : Bool := isDigit c || ('a' ≤ c && c ≤ 'f')

theorem isHexDigit_of_mem_hexadecimal {n : Nat} {c : Char} (member : c ∈ hexadecimal n) :
    isHexDigit c = true := by
  have digit {d : Nat} (small : d < 16) : isHexDigit (digitChar d) = true := by
    have all : ∀ e : Fin 16, isHexDigit (digitChar e) = true := by decide
    exact all ⟨d, small⟩
  induction n using hexadecimal.induct with
  | case1 n small =>
    rw [hexadecimal, if_pos small, List.mem_singleton] at member
    exact member ▸ digit small
  | case2 n large ih =>
    rw [hexadecimal, if_neg large, List.mem_append, List.mem_singleton] at member
    rcases member with member | rfl
    · exact ih member
    · exact digit (Nat.mod_lt n (by decide))

end CatalogMigration.Numeral
