import CatalogMigration.Proofs.Text.Parts
import CatalogMigration.Proofs.Url.Domain.Letters
import CatalogMigration.Proofs.Url.Numeric
import CatalogMigration.Proofs.Url.Percent

namespace CatalogMigration.Url

open Numeral Text

namespace Punycode

theorem thresholdAt_le (k bias : Nat) : thresholdAt k bias ≤ 26 := by
  unfold thresholdAt
  split
  · decide
  · split <;> omega

def IsDigit (c : Char) : Prop := ∃ d < 36, c = digit d

theorem mem_writeDistance {fuel q k bias : Nat} {c : Char}
    (member : c ∈ writeDistance fuel q k bias) : IsDigit c := by
  induction fuel generalizing q k with
  | zero => cases member
  | succ fuel ih =>
    have threshold := thresholdAt_le k bias
    rw [writeDistance] at member
    split at member
    · exact ⟨q, by omega, List.mem_singleton.mp member⟩
    · rcases List.mem_cons.mp member with rfl | later
      · have rest := Nat.mod_lt (q - thresholdAt k bias) (by omega : 0 < 36 - thresholdAt k bias)
        exact ⟨_, by omega, rfl⟩
      · exact ih later

theorem mem_placeAll {n basic : Nat} {cs : List Char} {s : State} {c : Char}
    (member : c ∈ (placeAll n basic cs s).out) : c ∈ s.out ∨ IsDigit c := by
  rw [placeAll] at member
  induction cs generalizing s with
  | nil => exact .inl member
  | cons d cs ih =>
    rcases ih member with placed | digit
    · dsimp only at placed
      split at placed
      · exact .inl placed
      · split at placed
        · exact (List.mem_append.mp placed).imp_right mem_writeDistance
        · exact .inl placed
    · exact .inr digit

theorem mem_encodeFrom {basic n : Nat} {cs : List Char} {ms : List Nat} {s : State} {c : Char}
    (member : c ∈ (encodeFrom basic cs n ms s).out) : c ∈ s.out ∨ IsDigit c := by
  induction ms generalizing n s with
  | nil => exact .inl member
  | cons m ms ih =>
    rw [encodeFrom] at member
    rcases ih member with placed | digit
    · have earlier := mem_placeAll placed
      exact earlier
    · exact .inr digit

theorem mem_encode {cs : List Char} {c : Char} (member : c ∈ encode cs) :
    (c ∈ cs ∧ c.toNat < 0x80) ∨ c = '-' ∨ IsDigit c := by
  rw [encode] at member
  rcases mem_encodeFrom member with head | digit
  · dsimp only at head
    split at head
    · cases head
    · rcases List.mem_append.mp head with basic | hyphen
      · exact .inl (by simpa using List.mem_filter.mp basic)
      · exact .inr (.inl (List.mem_singleton.mp hyphen))
  · exact .inr (.inr digit)

theorem decode?_ascii {cs ds : List Char} (decoded : decode? cs = some ds) :
    ∀ c ∈ cs, c.toNat < 0x80 := by
  rw [decode?] at decoded
  split at decoded
  · cases decoded
  · next plain => simpa using plain

end Punycode

def OfName (c : Char) : Prop :=
  c.toNat < 0x80 ∧ isForbidden c = false ∧ isUpper c.toNat = false

instance (c : Char) : Decidable (OfName c) := inferInstanceAs (Decidable (_ ∧ _ ∧ _))

theorem OfName.ne {c d : Char} (plain : OfName c) (other : isForbidden d = true) : c ≠ d := by
  rintro rfl
  exact absurd other (Bool.eq_false_iff.mp plain.2.1)

theorem ofName_of_isDigit {c : Char} (digit : Punycode.IsDigit c) : OfName c := by
  obtain ⟨d, bound, rfl⟩ := digit
  have all : ∀ e : Fin 36, OfName (Punycode.digit e) := by decide +kernel
  exact all ⟨d, bound⟩

theorem ofName_of_asciiLabel? {label name : List Char}
    (kept : ∀ c ∈ label, isForbidden c = false ∧ isUpper c.toNat = false)
    (ascii : asciiLabel? label = some name) : ∀ c ∈ name, OfName c := by
  have front : ∀ c ∈ ['x', 'n', '-', '-'], OfName c := by
    have all : ['x', 'n', '-', '-'].all (OfName ·) = true := by decide +kernel
    simpa using all
  unfold asciiLabel? at ascii
  split at ascii
  · next rest =>
    obtain ⟨decoded, read, ascii⟩ := Option.bind_eq_some_iff.mp ascii
    split at ascii
    · cases ascii
    obtain ⟨again, -, ascii⟩ := Option.bind_eq_some_iff.mp ascii
    obtain ⟨-, same⟩ := Option.ite_none_right_eq_some.mp ascii
    cases same
    have plain := Punycode.decode?_ascii read
    intro c member
    have member : c ∈ ['x', 'n', '-', '-'] ++ rest := member
    rcases List.mem_append.mp member with marked | later
    · exact front c marked
    · exact ⟨plain c later, kept c member⟩
  · split at ascii
    · next plain =>
      cases ascii
      intro c member
      exact ⟨by simpa using List.all_eq_true.mp plain c member, kept c member⟩
    obtain ⟨-, same⟩ := Option.ite_none_right_eq_some.mp ascii
    cases same
    intro c member
    rcases List.mem_append.mp member with marked | member
    · exact front c marked
    · rcases Punycode.mem_encode member with ⟨here, low⟩ | rfl | digit
      · exact ⟨low, kept c here⟩
      · decide +kernel
      · exact ofName_of_isDigit digit

theorem ofName_of_asciiDomain? {cs name : List Char} (ascii : asciiDomain? cs = some name) :
    ∀ c ∈ name, OfName c := by
  rw [asciiDomain?] at ascii
  obtain ⟨parts, mapped, ascii⟩ := Option.bind_eq_some_iff.mp ascii
  dsimp only at ascii
  split at ascii
  · cases ascii
  next allowed =>
  obtain ⟨labels, read, ascii⟩ := Option.bind_eq_some_iff.mp ascii
  cases ascii
  -- Composing a capital letter takes one, or what starts with one, and neither is left by the map.
  have small : ∀ c ∈ composed parts.flatten, isUpper c.toNat = false := by
    intro c member
    refine Bool.eq_false_iff.mpr fun upper => ?_
    obtain ⟨d, piece, capital⟩ := isCapital_of_composed member upper
    obtain ⟨part, among, inside⟩ := List.mem_flatten.mp piece
    have none_capital := forall_of_mapM
      (P := fun ds => ∀ d ∈ ds, isCapital d.toNat = false)
      (fun c _ ds found d member => not_isCapital_of_mapped? found member) mapped
    cases capital.symm.trans (none_capital part among d inside)
  have plain : ∀ label ∈ splitOn '.' (composed parts.flatten), ∀ name,
      asciiLabel? label = some name → ∀ c ∈ name, OfName c := by
    intro label piece name ascii
    refine ofName_of_asciiLabel? (fun c member => ?_) ascii
    have whole := (mem_of_mem_splitOn piece member).1
    exact ⟨by simpa using mt (fun f => List.any_eq_true.mpr ⟨c, whole, f⟩) allowed, small c whole⟩
  intro c member
  rcases mem_joinedWith member with point | ⟨label, piece, member⟩
  · rw [List.mem_singleton.mp point]
    decide +kernel
  · exact forall_of_mapM plain read label piece c member

section Again

variable {name : List Char} (plain : ∀ c ∈ name, OfName c)

include plain

theorem asciiDomain?_eq :
    asciiDomain? name = ((splitOn '.' name).mapM asciiLabel?).map (joinedWith ['.']) := by
  have mapped : name.mapM mapped? = some (name.map fun c => [c]) := by
    refine mapM_eq_some_iff.mpr (List.forall₂_map_right_iff.mpr (List.forall₂_same.mpr ?_))
    intro c member
    obtain ⟨ascii, -, small⟩ := plain c member
    have other : ('A' ≤ c && c ≤ 'Z') = false := small
    rw [mapped?, if_pos ascii, other]
    rfl
  have whole : (name.map fun c => [c]).flatten = name := List.flatMap_singleton' name
  have allowed : name.any isForbidden = false :=
    List.any_eq_false.mpr fun c member => by simp [(plain c member).2.1]
  rw [asciiDomain?, mapped, Option.bind_eq_bind, Option.bind_some, whole,
    composed_ascii fun c member => (plain c member).1]
  dsimp only
  rw [allowed]
  cases (splitOn '.' name).mapM asciiLabel? <;> rfl

omit plain in
theorem eq_of_asciiLabel? {label again : List Char} (ascii : ∀ c ∈ label, c.toNat < 0x80)
    (read : asciiLabel? label = some again) : again = label := by
  have low : label.all (·.toNat < 0x80) = true := by simpa using ascii
  unfold asciiLabel? at read
  split at read
  · obtain ⟨decoded, -, read⟩ := Option.bind_eq_some_iff.mp read
    split at read
    · cases read
    obtain ⟨_, -, read⟩ := Option.bind_eq_some_iff.mp read
    exact (Option.some.inj (Option.ite_none_right_eq_some.mp read).2).symm
  · rw [if_pos low] at read
    exact (Option.some.inj read).symm

theorem eq_of_asciiDomain? {again : List Char} (read : asciiDomain? name = some again) :
    again = name := by
  rw [asciiDomain?_eq plain] at read
  obtain ⟨labels, readAll, rfl⟩ := Option.map_eq_some_iff.mp read
  have same : labels = splitOn '.' name := by
    have related := mapM_eq_some_iff.mp readAll
    have ascii : ∀ label ∈ splitOn '.' name, ∀ c ∈ label, c.toNat < 0x80 :=
      fun label piece c member => (plain c (mem_of_mem_splitOn piece member).1).1
    clear readAll read
    generalize splitOn '.' name = parts at related ascii
    induction related with
    | nil => rfl
    | cons here _ ih =>
      obtain ⟨first, later⟩ := List.forall_mem_cons.mp ascii
      rw [eq_of_asciiLabel? first here, ih later]
  rw [same, joinedWith_splitOn]

end Again

theorem ofName_of_mem_writeFourBytes {n : Nat} {c : Char} (member : c ∈ writeFourBytes n) :
    OfName c := by
  have digit : isDigit c = true → OfName c := by
    intro isDigit
    have low : c.toNat < 128 := by
      have bound : c ≤ '9' := by simp_all [Numeral.isDigit]
      exact Nat.lt_of_le_of_lt (UInt32.le_iff_toNat_le.mp bound) (by decide)
    revert isDigit
    refine forall_ascii low ?_
    decide +kernel
  rcases mem_joinedWith member with point | ⟨part, piece, member⟩
  · rw [List.mem_singleton.mp point]
    decide +kernel
  · obtain ⟨u, -, rfl⟩ := List.mem_map.mp piece
    exact digit (isDigit_of_mem_decimal member)

theorem asciiDomain?_writeFourBytes (n : Nat) :
    asciiDomain? (writeFourBytes n) = some (writeFourBytes n) := by
  have labels : ((bytesOf n).map decimal).mapM asciiLabel? = some ((bytesOf n).map decimal) := by
    refine mapM_eq_some_iff.mpr (List.forall₂_same.mpr (List.forall_mem_map.mpr ?_))
    intro b member
    have all : ∀ m : Fin 256, asciiLabel? (decimal m) = some (decimal m) := by decide +kernel
    exact all ⟨b, bytesOf_lt member⟩
  rw [asciiDomain?_eq fun c member => ofName_of_mem_writeFourBytes member, splitOn_writeFourBytes,
    labels, Option.map_some, ← splitOn_writeFourBytes, joinedWith_splitOn]

theorem decodeText?_of_decode {cs ds : List Char} (bytes : decode cs = utf8 ds) :
    decodeText? cs = some ds := by
  have coded : ByteArray.mk (utf8 ds).toArray = (String.ofList ds).toByteArray := by
    rw [String.toByteArray_ofList, List.utf8Encode]
    exact ByteArray.ext List.data_toByteArray.symm
  have text : String.fromUTF8? (String.ofList ds).toByteArray = some (String.ofList ds) :=
    dif_pos (String.ofList ds).isValidUTF8
  rw [decodeText?, bytes, coded, text, Option.map_some, String.toList_ofList]

theorem decode_of_plain {cs : List Char} (plain : '%' ∉ cs) : decode cs = utf8 cs := by
  induction cs with
  | nil => rfl
  | cons c cs ih =>
    rw [List.mem_cons, not_or] at plain
    rw [decode_cons_of_ne (Ne.symm plain.1), ih plain.2, utf8, utf8, List.flatMap_cons]

theorem decodeText?_of_plain {cs : List Char} (plain : '%' ∉ cs) : decodeText? cs = some cs :=
  decodeText?_of_decode (decode_of_plain plain)

end CatalogMigration.Url
