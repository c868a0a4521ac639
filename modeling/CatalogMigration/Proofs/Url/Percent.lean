import CatalogMigration.Url.Reader

namespace CatalogMigration.Url

open Numeral

theorem digitValue?_upperDigitChar {n : Nat} (digit : n < 16) :
    digitValue? 16 (upperDigitChar n) = some n := by
  have all : ∀ m : Fin 16, digitValue? 16 (upperDigitChar m) = some m.val := by decide
  exact all ⟨n, digit⟩

@[simp] theorem decode_encodeByte (b : UInt8) (rest : List Char) :
    decode (encodeByte b ++ rest) = b :: decode rest := by
  have bound : b.toNat < 256 := b.toNat_lt
  have high : digitValue? 16 (upperDigitChar (b.toNat / 16)) = some (b.toNat / 16) :=
    digitValue?_upperDigitChar (by omega)
  have low : digitValue? 16 (upperDigitChar (b.toNat % 16)) = some (b.toNat % 16) :=
    digitValue?_upperDigitChar (by omega)
  have whole : UInt8.ofNat (b.toNat / 16 * 16 + b.toNat % 16) = b := by
    rw [show b.toNat / 16 * 16 + b.toNat % 16 = b.toNat by omega, UInt8.ofNat_toNat]
  simp only [encodeByte, List.cons_append, List.nil_append, decode, high, low, whole]

theorem decode_encodeBytes (bytes : List UInt8) (rest : List Char) :
    decode (bytes.flatMap encodeByte ++ rest) = bytes ++ decode rest := by
  induction bytes with
  | nil => rfl
  | cons b bytes ih =>
    rw [List.flatMap_cons, List.append_assoc, decode_encodeByte, ih, List.cons_append]

theorem decode_cons_of_ne {c : Char} (other : c ≠ '%') (rest : List Char) :
    decode (c :: rest) = String.utf8EncodeChar c ++ decode rest := by
  rw [decode]
  rintro a b cs rfl
  exact absurd rfl other

theorem decode_encodeChar {set : EncodeSet} (percent : '%' ∈ set) (c : Char) (rest : List Char) :
    decode (encodeChar set c ++ rest) = String.utf8EncodeChar c ++ decode rest := by
  unfold encodeChar
  split
  · exact decode_encodeBytes _ rest
  · next plain =>
    refine decode_cons_of_ne ?_ rest
    rintro rfl
    exact plain (by simp [isEncoded, percent])

theorem decode_encode {set : EncodeSet} (percent : '%' ∈ set) (cs : List Char) :
    decode (encode set cs) = utf8 cs := by
  induction cs with
  | nil => rfl
  | cons c cs ih =>
    rw [encode, List.flatMap_cons, decode_encodeChar percent, ← encode, ih, utf8, utf8,
      List.flatMap_cons]

theorem utf8_injective {cs ds : List Char} (same : utf8 cs = utf8 ds) : cs = ds := by
  have bytes : (String.ofList cs).toByteArray = (String.ofList ds).toByteArray := by
    simp only [String.toByteArray_ofList, List.utf8Encode]
    exact congrArg _ same
  exact String.ofList_injective (String.toByteArray_inj.mp bytes)

theorem encode_injective {set : EncodeSet} (percent : '%' ∈ set) {cs ds : List Char}
    (same : encode set cs = encode set ds) : cs = ds := by
  refine utf8_injective ?_
  rw [← decode_encode percent, ← decode_encode percent, same]

theorem eq_or_upper_of_toLower {c d : Char} (lower : c.toLower = d) :
    c = d ∨ c.toNat + 32 = d.toNat ∧ 65 ≤ c.toNat ∧ c.toNat ≤ 90 := by
  subst lower
  unfold Char.toLower
  split
  · next upper =>
    right
    have low : 65 ≤ c.toNat := UInt32.le_iff_toNat_le.mp upper.1
    have high : c.toNat ≤ 90 := UInt32.le_iff_toNat_le.mp upper.2
    refine ⟨?_, low, high⟩
    show c.toNat + 32 = (c.val + 32).toNat
    have sum : (c.val + 32).toNat = (c.toNat + 32) % 2 ^ 32 := UInt32.toNat_add c.val 32
    omega
  · exact .inl rfl

theorem toLower_eq_iff {c d : Char} (low : d.toNat < 97) (kept : d.toLower = d) :
    c.toLower = d ↔ c = d := by
  refine ⟨fun lower => ?_, fun same => same ▸ kept⟩
  rcases eq_or_upper_of_toLower lower with same | ⟨sum, bound, -⟩
  · exact same
  · omega

theorem toLower_eq_dot {c : Char} : c.toLower = '.' ↔ c = '.' := toLower_eq_iff (by decide) rfl

theorem toLower_eq_percent {c : Char} : c.toLower = '%' ↔ c = '%' := toLower_eq_iff (by decide) rfl

theorem toLower_eq_two {c : Char} : c.toLower = '2' ↔ c = '2' := toLower_eq_iff (by decide) rfl

theorem toLower_eq_e {c : Char} : c.toLower = 'e' ↔ c = 'e' ∨ c = 'E' := by
  constructor
  · intro lower
    rcases eq_or_upper_of_toLower lower with same | ⟨sum, -, -⟩
    · exact .inl same
    · have code : c.toNat = 69 := by simpa using sum
      exact .inr (by rw [← Char.ofNat_toNat c, code])
  · rintro (rfl | rfl) <;> rfl

theorem decode_of_isCurrent {cs : List Char} (current : isCurrent cs = true) :
    decode cs = utf8 ['.'] := by
  simp only [isCurrent, List.contains_iff_mem, List.mem_cons, ← String.toList_inj,
    String.toList_ofList, List.not_mem_nil, or_false] at current
  simp only [String.reduceToList, List.map_eq_cons_iff, List.map_eq_nil_iff, toLower_eq_dot,
    toLower_eq_percent, toLower_eq_two, toLower_eq_e] at current
  rcases current with ⟨_, _, rfl, rfl, rfl⟩ |
    ⟨_, _, rfl, rfl, _, _, rfl, rfl, _, _, rfl, (rfl | rfl), rfl⟩ <;> decide

theorem decode_of_isParent {cs : List Char} (parent : isParent cs = true) :
    decode cs = utf8 ['.', '.'] := by
  simp only [isParent, List.contains_iff_mem, List.mem_cons, ← String.toList_inj,
    String.toList_ofList, List.not_mem_nil, or_false] at parent
  simp only [String.reduceToList, List.map_eq_cons_iff, List.map_eq_nil_iff, toLower_eq_dot,
    toLower_eq_percent, toLower_eq_two, toLower_eq_e] at parent
  rcases parent with ⟨_, _, rfl, rfl, _, _, rfl, rfl, rfl⟩ |
    ⟨_, _, rfl, rfl, _, _, rfl, rfl, _, _, rfl, (rfl | rfl),
      _, _, rfl, rfl, _, _, rfl, rfl, _, _, rfl, (rfl | rfl), rfl⟩ |
    ⟨_, _, rfl, rfl, _, _, rfl, rfl, _, _, rfl, (rfl | rfl), _, _, rfl, rfl, rfl⟩ |
    ⟨_, _, rfl, rfl, _, _, rfl, rfl, _, _, rfl, rfl, _, _, rfl, (rfl | rfl), rfl⟩ <;> decide

section Dots

variable {set : EncodeSet} (percent : '%' ∈ set) (dot : '.' ∉ set) (cs : List Char)

include percent dot

theorem isCurrent_encode : isCurrent (encode set cs) = true ↔ cs = ['.'] := by
  constructor
  · intro current
    exact utf8_injective (by rw [← decode_encode percent, decode_of_isCurrent current])
  · rintro rfl
    have plain : encodeChar set '.' = ['.'] := if_neg (by simp [isEncoded, dot])
    simp only [encode, List.flatMap_cons, plain, List.flatMap_nil]
    decide

theorem isParent_encode : isParent (encode set cs) = true ↔ cs = ['.', '.'] := by
  constructor
  · intro parent
    exact utf8_injective (by rw [← decode_encode percent, decode_of_isParent parent])
  · rintro rfl
    have plain : encodeChar set '.' = ['.'] := if_neg (by simp [isEncoded, dot])
    simp only [encode, List.flatMap_cons, plain, List.flatMap_nil]
    decide

end Dots

end CatalogMigration.Url
