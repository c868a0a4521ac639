import CatalogMigration.Proofs.Text.Characters
import CatalogMigration.Settings.Reader
import Mathlib.Algebra.Group.Nat.Defs

namespace CatalogMigration.SettingValue

open Numeral Text

/-- A text that is read as a truth value or as a number. -/
def Mistakable (s : String) : Prop :=
  s = "true" ∨ s = "false" ∨ ∃ n, value? 10 s.toList = some n ∧ n < 2 ^ 64

instance (s : String) : Decidable (Mistakable s) :=
  decidable_of_iff (s = "true" ∨ s = "false" ∨ (value? 10 s.toList).any (· < 2 ^ 64) = true)
    (by simp [Mistakable, Option.any_eq_true])

theorem plain_marks {c : Char} (alphanum : c.isAlphanum = true) :
    isSkipped c = false ∧ isBlank c = false ∧ isSeparator c = false ∧
      c ≠ '"' ∧ c ≠ '\'' ∧ c ≠ '.' ∧ c ≠ '-' ∧ c ≠ '+' := by
  have ascii : c.toNat < 128 := by
    have ranges := toNat_of_isAlphanum alphanum
    omega
  revert alphanum
  refine forall_ascii ascii ?_
  decide +kernel

section Alphanumeric

variable {cs : List Char} (alphanum : ∀ c ∈ cs, c.isAlphanum = true)

include alphanum

theorem skip_eq_self : skip cs = cs := by
  cases cs with
  | nil => rfl
  | cons c rest =>
    exact List.dropWhile_cons_of_neg (by simp [(plain_marks (alphanum c (by simp))).1])

theorem trimmed_eq_self : trimmed cs = cs := by
  have front : ∀ ds : List Char, (∀ c ∈ ds, c ∈ cs) → ds.dropWhile isBlank = ds := by
    intro ds among
    cases ds with
    | nil => rfl
    | cons d rest =>
      exact List.dropWhile_cons_of_neg
        (by simp [(plain_marks (alphanum d (among d (by simp)))).2.1])
  rw [trimmed, front cs fun c member => member, front cs.reverse fun c => List.mem_reverse.mp,
    List.reverse_reverse]

theorem plain_of_alphanum :
    plain cs = match value? 10 cs with
      | some n => if n < 2 ^ 64 then .unsigned n else .text (String.ofList cs)
      | none => .text (String.ofList cs) := by
  have noPoint : cs.contains '.' = false := by
    simpa using fun member => (plain_marks (alphanum '.' member)).2.2.2.2.2.1 rfl
  have unsigned : sign? cs = (false, cs) := by
    cases cs with
    | nil => rfl
    | cons c rest =>
      obtain ⟨-, -, -, -, -, -, minus, plus⟩ := plain_marks (alphanum c (by simp))
      rw [sign?]
      · rintro _ ⟨rfl, rfl⟩
        exact minus rfl
      · rintro _ ⟨rfl, rfl⟩
        exact plus rfl
  simp only [plain, noPoint, unsigned, Bool.false_eq_true, if_false]
  cases value? 10 cs with
  | none => rfl
  | some n =>
    show (if n < 2 ^ 64 then some (SettingValue.unsigned n) else none).getD _ =
      if n < 2 ^ 64 then .unsigned n else _
    split <;> rfl

theorem readValue_of_alphanum (fuel : Nat) :
    readValue (fuel + 1) cs = some (match word? cs with
      | some (b, rest) => (.truth b, skip rest)
      | none => (plain cs, [])) := by
  have unseparated : cs.span (!isSeparator ·) = (cs, []) :=
    span_eq_self fun c member => by simp [(plain_marks (alphanum c member)).2.2.1]
  rw [readValue, skip_eq_self alphanum]
  cases word? cs with
  | some found => rfl
  | none =>
    dsimp only
    -- No letter or digit opens a value of another kind.
    split
    case h_6 => rw [unseparated, trimmed_eq_self alphanum]; rfl
    all_goals exact absurd (alphanum _ List.mem_cons_self) (by decide)

end Alphanumeric

theorem word?_eq_some {cs rest : List Char} {b : Bool} (found : word? cs = some (b, rest)) :
    cs = (Text.truth b).toList ++ rest := by
  unfold word? at found
  split at found <;> cases found <;> rfl

theorem word?_truth (b : Bool) : word? (Text.truth b).toList = some (b, []) := by
  cases b <;> rfl

theorem mistakable_truth (b : Bool) : Mistakable (Text.truth b) := by
  cases b
  · exact .inr (.inl rfl)
  · exact .inl rfl

theorem ofText_truth (b : Bool) : ofText (Text.truth b) = .truth b := by
  cases b <;> decide +kernel

theorem plain_ne_absent (cs : List Char) : plain cs ≠ .absent := by
  rw [plain]
  simp only
  split
  · nofun
  · cases sign? cs with
    | mk negative digits =>
      cases value? 10 digits with
      | none => nofun
      | some n => cases negative <;> simp <;> split <;> nofun

theorem readValue_ne_absent {fuel : Nat} {cs rest : List Char} {v : SettingValue}
    (found : readValue fuel cs = some (v, rest)) : v ≠ .absent := by
  cases fuel with
  | zero => cases found
  | succ fuel =>
    rw [readValue] at found
    obtain ⟨⟨w, left⟩, read, same⟩ := Option.map_eq_some_iff.mp found
    cases same
    dsimp only at read
    split at read
    · cases read
      nofun
    · split at read
      · obtain ⟨_, _, same⟩ := Option.map_eq_some_iff.mp read
        cases same
        nofun
      · obtain ⟨_, _, same⟩ := Option.map_eq_some_iff.mp read
        cases same
        nofun
      · obtain ⟨run, -, read⟩ := Option.bind_eq_some_iff.mp read
        obtain ⟨text, -, read⟩ := Option.bind_eq_some_iff.mp read
        cases read
        nofun
      · cases read
        nofun
      · cases read
      · cases read
        exact plain_ne_absent _

theorem ofText_ne_absent (s : String) : ofText s ≠ .absent := by
  rw [ofText, read]
  split
  · next found => exact readValue_ne_absent found
  · nofun

theorem ofText_cases {s : String} (alphanum : ∀ c ∈ s.toList, c.isAlphanum = true) :
    (∃ b, s = Text.truth b ∧ ofText s = .truth b) ∨
      (∃ n, value? 10 s.toList = some n ∧ n < 2 ^ 64 ∧ ofText s = .unsigned n) ∨
      ¬ Mistakable s ∧ ofText s = .text s := by
  have reading := readValue_of_alphanum alphanum (2 * s.toList.length + 1)
  rcases word : word? s.toList with _ | ⟨b, rest⟩
  · have whole : ofText s = plain s.toList := by rw [ofText, read, reading, word]
    have untrue : ∀ b, s ≠ Text.truth b := by
      rintro b rfl
      simp [word?_truth] at word
    rw [whole, plain_of_alphanum alphanum, String.ofList_toList]
    cases value : value? 10 s.toList with
    | none =>
      refine .inr (.inr ⟨?_, rfl⟩)
      rintro (rfl | rfl | ⟨n, number, -⟩)
      · exact untrue true rfl
      · exact untrue false rfl
      · simp [value] at number
    | some n =>
      by_cases fits : n < 2 ^ 64
      · exact .inr (.inl ⟨n, rfl, fits, if_pos fits⟩)
      · refine .inr (.inr ⟨?_, if_neg fits⟩)
        rintro (rfl | rfl | ⟨m, number, small⟩)
        · exact untrue true rfl
        · exact untrue false rfl
        · rw [value] at number
          cases number
          exact fits small
  · have parts := word?_eq_some word
    cases rest with
    | nil =>
      have same : s = Text.truth b := String.toList_inj.mp (by simpa using parts)
      exact .inl ⟨b, same, by rw [same, ofText_truth]⟩
    | cons c rest =>
      -- More follows the word, so the text is not read whole.
      have left : skip (c :: rest) = c :: rest :=
        skip_eq_self fun d member => alphanum d (by rw [parts]; simp [member])
      refine .inr (.inr ⟨?_, ?_⟩)
      · rintro (rfl | rfl | ⟨n, number, -⟩)
        · cases (word?_truth true).symm.trans word
        · cases (word?_truth false).symm.trans word
        · rw [parts] at number
          cases b <;> simp [Text.truth, value?, digitValue?] at number
      · rw [ofText, read, reading, word, String.ofList_toList]
        simp only [left]

end CatalogMigration.SettingValue
