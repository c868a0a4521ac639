import CatalogMigration.Proofs.Text.Characters
import CatalogMigration.Url.Domain
import Mathlib

namespace CatalogMigration.Url

open Text

theorem compositions_beyond : ∀ e ∈ compositions, 0xc0 ≤ e.2.1 ∧ 0xc0 ≤ e.2.2 := by
  have all : compositions.all (fun e => 0xc0 ≤ e.2.1 && 0xc0 ≤ e.2.2) = true := by decide +kernel
  intro e member
  simpa using List.all_eq_true.mp all e member

theorem isWithin_iff {first count n : Nat} :
    isWithin first count n = true ↔ first ≤ n ∧ n < first + count := by
  simp [isWithin]

theorem syllable?_beyond {a b z : Nat} (found : syllable? a b = some z) :
    0xc0 ≤ b ∧ 0xc0 ≤ z := by
  have large : 0xc0 ≤ firstSyllable := by decide
  rw [syllable?] at found
  split at found
  · next fits =>
    rw [Bool.and_eq_true, isWithin_iff, isWithin_iff] at fits
    have sum := Option.some.inj found
    omega
  · split at found
    · next fits =>
      rw [Bool.and_eq_true, Bool.and_eq_true, isWithin_iff, isWithin_iff] at fits
      have sum := Option.some.inj found
      omega
    · cases found

theorem composition?_beyond {a b z : Nat} (found : composition? a b = some z) :
    0xc0 ≤ b ∧ 0xc0 ≤ z := by
  unfold composition? at found
  split at found
  · next entry =>
    cases found
    have member := List.mem_of_find?_eq_some entry
    have same := List.find?_some entry
    have bounds := compositions_beyond _ member
    simp only [Bool.and_eq_true, decide_eq_true_eq] at same
    exact ⟨same.2 ▸ bounds.1, bounds.2⟩
  · exact syllable?_beyond found

theorem markClass_ascii {n : Nat} (ascii : n < 0x80) : markClass n = 0 := by
  have all : markClasses.all (fun e => 0x80 ≤ e.1) = true := by decide +kernel
  rw [markClass, List.find?_eq_none.mpr]
  · rfl
  · intro e member
    have above := List.all_eq_true.mp all e member
    simp only [decide_eq_true_eq] at above
    simp only [Bool.and_eq_true, decide_eq_true_eq]
    omega

theorem decomposition_ascii (fuel : Nat) {n : Nat} (ascii : n < 0x80) :
    decomposition fuel n = [n] := by
  cases fuel with
  | zero => rfl
  | succ fuel =>
    have whole : compositions.find? (·.2.2 = n) = none := by
      refine List.find?_eq_none.mpr fun e member => ?_
      have above := (compositions_beyond e member).2
      simp only [decide_eq_true_eq]
      omega
    have outside : isWithin firstSyllable syllableCount n = false := by
      refine Bool.and_eq_false_iff.mpr (.inl (decide_eq_false ?_))
      unfold firstSyllable
      omega
    rw [decomposition, outside, whole]
    rfl

theorem placed_ascii {n : Nat} (ascii : n < 0x80) (ms : List Nat) : placed n ms = n :: ms := by
  cases ms with
  | nil => rfl
  | cons m ms => simp [placed, markClass_ascii ascii]

theorem ordered_ascii {ns : List Nat} (ascii : ∀ n ∈ ns, n < 0x80) : ordered ns = ns := by
  suffices each : ∀ ms, ns.foldl (fun ms n => placed n ms) ms = ns.reverse ++ ms by
    rw [ordered, each, List.append_nil, List.reverse_reverse]
  induction ns with
  | nil => exact fun _ => rfl
  | cons n ns ih =>
    obtain ⟨here, later⟩ := List.forall_mem_cons.mp ascii
    intro ms
    rw [List.foldl_cons, placed_ascii here, ih later, List.reverse_cons, List.append_assoc]
    rfl

theorem next_ascii {n : Nat} (ascii : n < 0x80) (s : Composing) :
    (s.next n).finished = n :: s.finished := by
  have apart : ∀ b, composition? b n = none := fun b => by
    refine Option.eq_none_iff_forall_ne_some.mpr fun z found => ?_
    have above := (composition?_beyond found).1
    omega
  rw [Composing.next]
  simp [apart, markClass_ascii ascii, Composing.finished]

theorem composed_ascii {cs : List Char} (ascii : ∀ c ∈ cs, c.toNat < 0x80) : composed cs = cs := by
  have parts : (cs.flatMap fun c => decomposition partsBound c.toNat) = cs.map Char.toNat := by
    rw [List.map_eq_flatMap, List.flatMap, List.flatMap]
    exact congrArg List.flatten (List.map_congr_left fun c member =>
      decomposition_ascii _ (ascii c member))
  have low : ∀ n ∈ cs.map Char.toNat, n < 0x80 := List.forall_mem_map.mpr ascii
  have finished : ∀ (ns : List Nat) (s : Composing), (∀ n ∈ ns, n < 0x80) →
      (ns.foldl Composing.next s).finished = ns.reverse ++ s.finished := by
    intro ns
    induction ns with
    | nil => exact fun _ _ => rfl
    | cons n ns ih =>
      intro s low
      obtain ⟨here, later⟩ := List.forall_mem_cons.mp low
      rw [List.foldl_cons, ih _ later, next_ascii here, List.reverse_cons, List.append_assoc]
      rfl
  rw [composed, parts, ordered_ascii low, finished _ _ low]
  simp [Composing.finished, Function.comp_def]

section Capitals

def isUpper (n : Nat) : Bool := 65 ≤ n && n ≤ 90

/-- A set of numbers, given by the bits of one, with those that are composed from its own. -/
def withComposed : List (Nat × Nat × Nat) → Nat → Nat
  | [], bits => bits
  | e :: es, bits =>
    if bits.testBit e.1 then withComposed es (bits ||| 1 <<< e.2.2) else withComposed es bits

def capitals : Nat := withComposed compositions (withComposed compositions ((2 ^ 26 - 1) <<< 65))

def isCapital (n : Nat) : Bool := capitals.testBit n

theorem isCapital_of_isUpper {n : Nat} (upper : isUpper n = true) : isCapital n = true := by
  have all : (List.range 91).all (fun n => !isUpper n || isCapital n) = true := by decide +kernel
  have below : n < 91 := by
    simp only [isUpper, Bool.and_eq_true, decide_eq_true_eq] at upper
    omega
  simpa [upper] using List.all_eq_true.mp all n (List.mem_range.mpr below)

theorem isCapital_composed {a b z : Nat} (member : (a, b, z) ∈ compositions)
    (capital : isCapital a = true) : isCapital z = true := by
  have all : compositions.all (fun e => !isCapital e.1 || isCapital e.2.2) = true := by
    decide +kernel
  simpa [capital] using List.all_eq_true.mp all _ member

theorem isCapital_of_part {fuel n m : Nat} (part : m ∈ decomposition fuel n)
    (upper : isUpper m = true) : isCapital n = true := by
  have bound : m < 91 := by
    simp only [isUpper, Bool.and_eq_true, decide_eq_true_eq] at upper
    omega
  induction fuel generalizing n with
  | zero =>
    rw [decomposition, List.mem_singleton] at part
    exact part ▸ isCapital_of_isUpper upper
  | succ fuel ih =>
    rw [decomposition] at part
    split at part
    · simp only [List.mem_append, List.mem_cons, List.not_mem_nil, or_false] at part
      rcases part with (rfl | rfl) | part
      · omega
      · omega
      · split at part
        · cases part
        · rw [List.mem_singleton] at part
          omega
    · split at part
      · next a b z found =>
        have member := List.mem_of_find?_eq_some found
        have same : z = n := by simpa using List.find?_some found
        -- Only the first part can be a letter of ASCII, the second one is a mark.
        have above : 0xc0 ≤ b := (compositions_beyond _ member).1
        rcases List.mem_append.mp part with part | part
        · exact same ▸ isCapital_composed member (ih part)
        · rw [List.mem_singleton] at part
          omega
      · rw [List.mem_singleton] at part
        exact part ▸ isCapital_of_isUpper upper

theorem mem_placed {n m : Nat} {ms : List Nat} (member : m ∈ placed n ms) : m = n ∨ m ∈ ms := by
  induction ms with
  | nil => exact .inl (List.mem_singleton.mp member)
  | cons k ms ih =>
    rw [placed] at member
    split at member
    · rcases List.mem_cons.mp member with rfl | member
      · exact .inr List.mem_cons_self
      · exact (ih member).imp_right (List.mem_cons_of_mem _)
    · exact List.mem_cons.mp member

theorem mem_ordered {m : Nat} {ns : List Nat} (member : m ∈ ordered ns) : m ∈ ns := by
  suffices each : ∀ ms, m ∈ ns.foldl (fun ms n => placed n ms) ms → m ∈ ms ∨ m ∈ ns from
    (each [] (List.mem_reverse.mp member)).resolve_left List.not_mem_nil
  clear member
  induction ns with
  | nil => exact fun ms member => .inl member
  | cons n ns ih =>
    intro ms member
    rcases ih _ member with member | member
    · exact (mem_placed member).elim (fun same => .inr (same ▸ List.mem_cons_self)) .inl
    · exact .inr (List.mem_cons_of_mem _ member)

theorem mem_finished_next {m n : Nat} {s : Composing} (member : m ∈ (s.next n).finished) :
    m = n ∨ m ∈ s.finished ∨ 0xc0 ≤ m := by
  simp only [Composing.next, Composing.finished] at member ⊢
  split at member
  · next z found =>
    obtain ⟨b, -, composes⟩ := Option.bind_eq_some_iff.mp found
    have beyond : 0xc0 ≤ z :=
      (composition?_beyond (Option.ite_none_right_eq_some.mp composes).2).2
    simp only [List.mem_append, Option.mem_toList, Option.some.injEq] at member ⊢
    rcases member with (marked | rfl) | done
    · exact .inr (.inl (.inl (.inl marked)))
    · exact .inr (.inr beyond)
    · exact .inr (.inl (.inr done))
  · split at member
    · simp only [List.nil_append, List.mem_append, Option.mem_toList, Option.some.injEq] at member ⊢
      rcases member with rfl | earlier
      · exact .inl rfl
      · exact .inr (.inl earlier)
    · rw [List.cons_append, List.cons_append, List.mem_cons] at member
      exact member.imp_right .inl

theorem isCapital_of_composed {c : Char} {cs : List Char} (member : c ∈ composed cs)
    (upper : isUpper c.toNat = true) : ∃ d ∈ cs, isCapital d.toNat = true := by
  have among : ∀ (ns : List Nat) (s : Composing), ∀ m ∈ (ns.foldl Composing.next s).finished,
      m ∈ ns ∨ m ∈ s.finished ∨ 0xc0 ≤ m := by
    intro ns
    induction ns with
    | nil => exact fun s m member => .inr (.inl member)
    | cons n ns ih =>
      intro s m member
      rcases ih _ m member with later | here | beyond
      · exact .inl (List.mem_cons_of_mem _ later)
      · rcases mem_finished_next here with rfl | earlier
        · exact .inl List.mem_cons_self
        · exact .inr earlier
      · exact .inr (.inr beyond)
  obtain ⟨m, part, rfl⟩ := List.mem_map.mp member
  have valid : (Char.ofNat m).toNat = m := by
    rw [Char.toNat_ofNat] at upper ⊢
    split at upper
    · next valid => exact if_pos valid
    · cases upper
  rw [valid] at upper
  have bound : m < 0xc0 := by
    simp only [isUpper, Bool.and_eq_true, decide_eq_true_eq] at upper
    omega
  -- What marks were taken by is beyond ASCII, so a capital letter was a part of its own.
  rcases among _ _ m (List.mem_reverse.mp part) with placed | started | beyond
  · obtain ⟨d, here, piece⟩ := List.mem_flatMap.mp (mem_ordered placed)
    exact ⟨d, here, isCapital_of_part piece upper⟩
  · cases started
  · omega

theorem isCapital_toNat_ofNat {n : Nat} (small : isCapital n = false) :
    isCapital (Char.ofNat n).toNat = false := by
  rw [Char.toNat_ofNat]
  split
  · exact small
  · decide +kernel

theorem isCapital_shifted {n m : Nat} (shifted : shift? n = some m) : isCapital m = false := by
  have all : shifts.all (fun s => (List.range s.count).all fun i =>
      !isCapital (Int.ofNat (s.first + i * s.step) + s.distance).toNat) = true := by
    decide +kernel
  obtain ⟨s, found, rfl⟩ := Option.map_eq_some_iff.mp shifted
  have within := List.find?_some found
  simp only [Bool.and_eq_true, decide_eq_true_eq, beq_iff_eq] at within
  obtain ⟨⟨above, below⟩, whole⟩ := within
  have step : 0 < s.step := by
    rcases Nat.eq_zero_or_pos s.step with zero | positive
    · rw [zero, Nat.mul_zero] at below
      omega
    · exact positive
  have index : (n - s.first) / s.step < s.count := by
    rw [Nat.div_lt_iff_lt_mul step]
    omega
  have target : s.first + (n - s.first) / s.step * s.step = n := by
    rw [Nat.div_mul_cancel (Nat.dvd_of_mod_eq_zero whole)]
    omega
  have targets := List.all_eq_true.mp all s (List.mem_of_find?_eq_some found)
  simpa [target] using List.all_eq_true.mp targets _ (List.mem_range.mpr index)

theorem replaced_of_isCapital {n : Nat} (capital : isCapital n = true) (other : 0x80 ≤ n) :
    (shift? n).isSome = true ∨ (expansions.find? (·.1 = n)).isSome = true := by
  have all : (List.range 0x1f00).all (fun n => !isCapital n || n < 0x80 ||
      (shift? n).isSome || (expansions.find? (·.1 = n)).isSome) = true := by
    decide +kernel
  have bound : n < 0x1f00 := by
    by_contra beyond
    have rest : capitals >>> 0x1f00 = 0 := by decide +kernel
    have place : 0x1f00 + (n - 0x1f00) = n := Nat.add_sub_of_le (Nat.not_lt.mp beyond)
    rw [isCapital, ← place, ← Nat.testBit_shiftRight, rest, Nat.zero_testBit] at capital
    cases capital
  have one := List.all_eq_true.mp all n (List.mem_range.mpr bound)
  have beyond : ¬ n < 0x80 := Nat.not_lt.mpr other
  simpa [capital, beyond] using one

/-- No character is mapped to a capital letter. -/
theorem not_isCapital_of_mapped? {c d : Char} {ds : List Char} (found : mapped? c = some ds)
    (member : d ∈ ds) : isCapital d.toNat = false := by
  unfold mapped? at found
  dsimp only at found
  split at found
  · next ascii =>
    cases found
    rw [List.mem_singleton.mp member]
    refine forall_ascii ascii ?_
    decide +kernel
  next other =>
  split at found
  · next kept =>
    cases found
    rw [List.mem_singleton.mp member]
    have all : [0xdf, 0x3c2, 0x200c, 0x200d].all (!isCapital ·) = true := by decide +kernel
    simpa using List.all_eq_true.mp all c.toNat (List.contains_iff_mem.mp kept)
  split at found
  · cases found
    cases member
  split at found
  · cases found
  split at found
  · next ns expanded =>
    cases found
    have all : expansions.all (fun e => e.2.all (!isCapital ·)) = true := by decide +kernel
    have parts := List.all_eq_true.mp all _ (List.mem_of_find?_eq_some expanded)
    obtain ⟨n, piece, rfl⟩ := List.mem_map.mp member
    exact isCapital_toNat_ofNat (by simpa using List.all_eq_true.mp parts n piece)
  · next m _ shifted =>
    cases found
    rw [List.mem_singleton.mp member]
    exact isCapital_toNat_ofNat (isCapital_shifted shifted)
  · next single unshifted =>
    cases found
    rw [List.mem_singleton.mp member]
    refine Bool.eq_false_iff.mpr fun capital => ?_
    rcases replaced_of_isCapital capital (Nat.not_lt.mp other) with shifted | expanded
    · simp [unshifted] at shifted
    · simp [single] at expanded

end Capitals

end CatalogMigration.Url
