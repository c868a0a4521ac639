import CatalogMigration.Url.Reader

namespace CatalogMigration.Url

open Numeral

variable {set : EncodeSet} {cs : List Char} {c : Char}

/-- Nothing in the text is written as bytes. -/
def Clean (set : EncodeSet) (cs : List Char) : Prop := ∀ c ∈ cs, isEncoded set c = false

def EncodeSet.Stable (set : EncodeSet) : Prop :=
  isEncoded set '%' = false ∧ ∀ d < 16, isEncoded set (upperDigitChar d) = false

instance (set : EncodeSet) : Decidable set.Stable :=
  inferInstanceAs (Decidable (_ ∧ ∀ d < 16, _))

theorem Clean.encode_eq (clean : Clean set cs) : encode set cs = cs := by
  induction cs with
  | nil => rfl
  | cons c rest ih =>
    obtain ⟨here, later⟩ := List.forall_mem_cons.mp clean
    have itself : encodeChar set c = [c] := if_neg (by simp [here])
    rw [encode, List.flatMap_cons, itself, ← encode, ih later]
    rfl

theorem mem_encode (member : c ∈ encode set cs) :
    c = '%' ∨ (∃ d < 16, c = upperDigitChar d) ∨ c ∈ cs ∧ isEncoded set c = false := by
  obtain ⟨d, here, member⟩ := List.mem_flatMap.mp member
  unfold encodeChar at member
  split at member
  · obtain ⟨b, -, member⟩ := List.mem_flatMap.mp member
    have bound : b.toNat < 256 := b.toNat_lt
    simp only [encodeByte, List.mem_cons, List.not_mem_nil, or_false] at member
    rcases member with percent | high | low
    · exact .inl percent
    · exact .inr (.inl ⟨_, by omega, high⟩)
    · exact .inr (.inl ⟨_, by omega, low⟩)
  · next plain =>
    cases List.mem_singleton.mp member
    exact .inr (.inr ⟨here, by simpa using plain⟩)

theorem clean_encode (stable : set.Stable) (cs : List Char) : Clean set (encode set cs) := by
  intro c member
  rcases mem_encode member with rfl | ⟨d, digit, rfl⟩ | ⟨-, kept⟩
  · exact stable.1
  · exact stable.2 d digit
  · exact kept

theorem encode_ne_nil (nonempty : cs ≠ []) : encode set cs ≠ [] := by
  cases cs with
  | nil => exact absurd rfl nonempty
  | cons c rest =>
    have written : encodeChar set c ≠ [] := by
      unfold encodeChar
      split
      · have bytes : 0 < (String.utf8EncodeChar c).length := by
          rw [String.length_utf8EncodeChar]
          exact Char.utf8Size_pos c
        cases coded : String.utf8EncodeChar c with
        | nil => simp [coded] at bytes
        | cons b bytes => simp [encodeByte]
      · simp
    simp [encode, written]

def Visible (c : Char) : Prop := 0x20 < c.toNat ∧ c.toNat < 0x7f

instance (c : Char) : Decidable (Visible c) := inferInstanceAs (Decidable (_ ∧ _))

theorem Clean.bounds (clean : Clean set cs) (member : c ∈ cs) :
    0x20 ≤ c.toNat ∧ c.toNat ≤ 0x7e ∧ c ∉ set := by
  have kept := clean c member
  simp only [isEncoded, Bool.or_eq_false_iff, decide_eq_false_iff_not] at kept
  obtain ⟨⟨low, high⟩, outside⟩ := kept
  exact ⟨by omega, by omega, by simpa using outside⟩

theorem Clean.ne {d : Char} (clean : Clean set cs) (among : d ∈ set) (member : c ∈ cs) : c ≠ d := by
  rintro rfl
  exact (clean.bounds member).2.2 among

theorem Clean.visible (clean : Clean set cs) (blank : ' ' ∈ set) : ∀ c ∈ cs, Visible c := by
  intro c member
  obtain ⟨low, high, outside⟩ := clean.bounds member
  have other : c.toNat ≠ 0x20 := by
    intro same
    have blankChar : c = ' ' := by rw [← Char.ofNat_toNat c, same]
    exact outside (blankChar ▸ blank)
  exact ⟨by omega, by omega⟩

theorem trimmedEnds_of_visible (visible : ∀ c ∈ cs, Visible c) : trimmedEnds cs = cs := by
  have front {ds : List Char} (visible : ∀ c ∈ ds, Visible c) :
      ds.dropWhile (·.toNat ≤ 0x20) = ds := by
    cases ds with
    | nil => rfl
    | cons d rest =>
      have above := (visible d List.mem_cons_self).1
      exact List.dropWhile_cons_of_neg (by simpa using above)
  rw [trimmedEnds, front visible, front fun c member => visible c (List.mem_reverse.mp member),
    List.reverse_reverse]

theorem not_ignored_of_visible (visible : ∀ c ∈ cs, Visible c) :
    cs.filter (!isIgnored ·) = cs := by
  refine List.filter_eq_self.mpr fun c member => ?_
  have above := (visible c member).1
  have other {d : Char} (low : d.toNat ≤ 0x20) : c ≠ d := by
    rintro rfl
    omega
  simp [isIgnored, other (d := '\t') (by decide), other (d := '\n') (by decide),
    other (d := '\r') (by decide)]

end CatalogMigration.Url
