import CatalogMigration.Proofs.Text.Characters
import CatalogMigration.Proofs.Url.Percent
import CatalogMigration.Url.Path

namespace CatalogMigration.Url

/-- A text that is pushed as it is: no dot segment, and nothing in it that does not count. -/
def Plain (part : List Char) : Prop :=
  part ≠ ['.'] ∧ part ≠ ['.', '.'] ∧ ∀ c ∈ part, isIgnored c = false

instance (part : List Char) : Decidable (Plain part) :=
  decidable_of_iff (part ≠ ['.'] ∧ part ≠ ['.', '.'] ∧ part.all (!isIgnored ·) = true)
    (by simp [Plain])

/-- The segments that stay below a pushed one. The empty path is one empty segment, which does
not. -/
def held (parts : List (List Char)) : List (List Char) := if parts = [[]] then [] else parts

theorem held_of_ne {parts : List (List Char)} (other : parts ≠ [[]]) : held parts = parts :=
  if_neg other

theorem length_held_le (parts : List (List Char)) : (held parts).length ≤ parts.length := by
  unfold held
  split
  · exact Nat.zero_le _
  · exact Nat.le_refl _

theorem length_held_shortened_le (parts : List (List Char)) :
    (held (parts.dropLast ++ [[]])).length ≤ parts.length := by
  cases parts with
  | nil => exact Nat.le_refl _
  | cons first rest =>
    refine Nat.le_trans (length_held_le _) ?_
    simp

theorem percent_mem_segmentSet (scheme : List Char) : '%' ∈ segmentSet scheme := by
  unfold segmentSet
  split <;> decide

theorem dot_notMem_segmentSet (scheme : List Char) : '.' ∉ segmentSet scheme := by
  unfold segmentSet
  split <;> decide

theorem filter_kept {part : List Char} (kept : ∀ c ∈ part, isIgnored c = false) :
    part.filter (!isIgnored ·) = part :=
  List.filter_eq_self.mpr fun c member => by simp [kept c member]

theorem shortened_false (parts : List (List Char)) : shortened false parts = parts.dropLast := by
  unfold shortened
  split <;> simp

def Simple (part : List Char) : Prop := ∀ c ∈ part, c.isAlphanum = true ∨ c = '_' ∨ c = '-'

instance (part : List Char) : Decidable (Simple part) :=
  decidable_of_iff (part.all (fun c => c.isAlphanum || c = '_' || c = '-') = true)
    (by simp [Simple, or_assoc])

theorem Simple.plain {part : List Char} (simple : Simple part) : Plain part := by
  have dot : ¬ Simple ['.'] := by decide
  refine ⟨fun same => dot (same ▸ simple), fun same => ?_, fun c member => ?_⟩
  · rw [same] at simple
    exact dot fun c member => simple c (by simp_all)
  · refine Bool.eq_false_iff.mpr fun ignored => ?_
    have blank : c = '\t' ∨ c = '\n' ∨ c = '\r' := by simpa [isIgnored, or_assoc] using ignored
    rcases blank with rfl | rfl | rfl <;> exact absurd (simple _ member) (by decide)

theorem isEncoded_of_simple {c : Char} (simple : c.isAlphanum = true ∨ c = '_' ∨ c = '-')
    (scheme : List Char) : isEncoded (segmentSet scheme) c = false := by
  have bounds : 0x20 ≤ c.toNat ∧ c.toNat ≤ 0x7e := by
    rcases simple with alphanum | rfl | rfl
    · have ranges := Text.toNat_of_isAlphanum alphanum
      omega
    · decide
    · decide
  have apart : EncodeSet.specialPathSegment.all
      (fun d => !(d.isAlphanum || d = '_' || d = '-')) = true := by decide
  have outside : c ∉ segmentSet scheme := by
    intro member
    have among : c ∈ EncodeSet.specialPathSegment := by
      unfold segmentSet at member
      split at member
      · exact member
      · exact List.mem_append_left _ member
    have unlike := List.all_eq_true.mp apart c among
    rcases simple with alphanum | rfl | rfl
    · simp [alphanum] at unlike
    · simp at unlike
    · simp at unlike
  simp [isEncoded, outside]
  omega

theorem Simple.encode_eq {part : List Char} (simple : Simple part) (scheme : List Char) :
    encode (segmentSet scheme) part = part := by
  induction part with
  | nil => rfl
  | cons c rest ih =>
    obtain ⟨first, others⟩ := List.forall_mem_cons.mp simple
    rw [encode, List.flatMap_cons, encodeChar, isEncoded_of_simple first]
    exact congrArg (c :: ·) (ih others)

section Push

variable {scheme : List Char} (notFile : isFileScheme scheme = false)

include notFile

theorem push_eq (parts : List (List Char)) {part : List Char} (single : part ≠ ['.'])
    (double : part ≠ ['.', '.']) :
    push scheme parts part =
      let kept := part.filter (!isIgnored ·)
      if kept = ['.', '.'] then (held parts).dropLast ++ [[]]
      else if kept = ['.'] then held parts ++ [[]]
      else held parts ++ [encode (segmentSet scheme) kept] := by
  have percent := percent_mem_segmentSet scheme
  have dot := dot_notMem_segmentSet scheme
  simp only [push, single, double, or_self, notFile, place, isParent_encode percent dot,
    isCurrent_encode percent dot, shortened_false, Bool.false_eq_true, Bool.false_and, if_false,
    if_true]
  rfl

theorem push_of_plain (parts : List (List Char)) {part : List Char} (plain : Plain part) :
    push scheme parts part = held parts ++ [encode (segmentSet scheme) part] := by
  obtain ⟨single, double, kept⟩ := plain
  rw [push_eq notFile parts single double, filter_kept kept]
  simp only [single, double, if_false]

theorem length_held_push_le (parts : List (List Char)) (part : List Char) :
    (held (push scheme parts part)).length ≤ (held parts).length + 1 := by
  by_cases dots : part = ['.'] ∨ part = ['.', '.']
  · simp only [push, dots, if_true]
    exact Nat.le_succ _
  · obtain ⟨single, double⟩ := not_or.mp dots
    refine Nat.le_trans (length_held_le _) ?_
    rw [push_eq notFile parts single double]
    dsimp only
    split
    · simp only [List.length_append, List.length_dropLast, List.length_singleton]
      omega
    · split <;> simp

theorem push_of_grown (parts : List (List Char)) (part : List Char)
    (grown : (held (push scheme parts part)).length = (held parts).length + 1) :
    ∃ segment, push scheme parts part = held parts ++ [segment] ∧
      (decode segment = utf8 part → Plain part) := by
  by_cases dots : part = ['.'] ∨ part = ['.', '.']
  · simp only [push, dots, if_true] at grown
    omega
  · obtain ⟨single, double⟩ := not_or.mp dots
    rw [push_eq notFile parts single double] at grown ⊢
    dsimp only at grown ⊢
    split at grown
    -- What is left once tabs and line breaks are gone can be a dot segment after all.
    · have shrunk := length_held_shortened_le (held parts)
      omega
    · next left =>
      rw [if_neg left]
      split
      · next emptied =>
        refine ⟨[], rfl, fun same => ?_⟩
        have none_left : part = [] := utf8_injective same.symm
        rw [none_left] at emptied
        cases emptied
      · refine ⟨_, rfl, fun same => ⟨single, double, ?_⟩⟩
        rw [decode_encode (percent_mem_segmentSet scheme)] at same
        simpa using List.filter_eq_self.mp (utf8_injective same)

theorem pushes_onto {parts : List (List Char)} (start : parts ≠ [] ∧ parts ≠ [[]])
    {texts : List (List Char)} (plain : ∀ part ∈ texts, Plain part) :
    texts.foldl (push scheme) parts = parts ++ texts.map (encode (segmentSet scheme)) := by
  induction texts generalizing parts with
  | nil => exact (List.append_nil parts).symm
  | cons part rest ih =>
    have pushed := push_of_plain notFile parts (plain part (by simp))
    rw [held_of_ne start.2] at pushed
    have grown : parts ++ [encode (segmentSet scheme) part] ≠ [[]] := by
      cases parts with
      | nil => exact absurd rfl start.1
      | cons first others => simp
    rw [List.foldl_cons, pushed, ih ⟨by simp, grown⟩ fun p later => plain p (by simp [later]),
      List.map_cons, List.append_assoc, List.singleton_append]

theorem pushes_of_plain (parts : List (List Char)) {part : List Char} (nonempty : part ≠ [])
    {texts : List (List Char)} (plain : ∀ p ∈ part :: texts, Plain p) :
    (part :: texts).foldl (push scheme) parts =
      held parts ++ (part :: texts).map (encode (segmentSet scheme)) := by
  obtain ⟨first, others⟩ := List.forall_mem_cons.mp plain
  have written : encode (segmentSet scheme) part ≠ [] := fun none_written =>
    nonempty (encode_injective (percent_mem_segmentSet scheme) none_written)
  have grown : held parts ++ [encode (segmentSet scheme) part] ≠ [[]] := by
    cases held parts <;> simp [written]
  rw [List.foldl_cons, push_of_plain notFile parts first,
    pushes_onto notFile ⟨by simp, grown⟩ others, List.map_cons, List.append_assoc,
    List.singleton_append]

theorem length_held_pushes_le (parts texts : List (List Char)) :
    (held (texts.foldl (push scheme) parts)).length ≤ (held parts).length + texts.length := by
  induction texts generalizing parts with
  | nil => exact Nat.le_refl _
  | cons part rest ih =>
    have first := length_held_push_le notFile parts part
    have others := ih (push scheme parts part)
    rw [List.foldl_cons, List.length_cons]
    omega

theorem pushes_of_grown (parts texts : List (List Char))
    (grown : (held (texts.foldl (push scheme) parts)).length = (held parts).length + texts.length) :
    ∃ added, held (texts.foldl (push scheme) parts) = held parts ++ added ∧
      (added.map decode = texts.map utf8 → ∀ part ∈ texts, Plain part) := by
  induction texts generalizing parts with
  | nil => exact ⟨[], (List.append_nil _).symm, fun _ => by simp⟩
  | cons part rest ih =>
    rw [List.foldl_cons, List.length_cons] at grown
    -- No push adds more than one segment, so none of them has added fewer.
    have first := length_held_push_le notFile parts part
    have others := length_held_pushes_le notFile (push scheme parts part) rest
    obtain ⟨segment, pushed, plain⟩ := push_of_grown notFile parts part (by omega)
    obtain ⟨added, whole, each⟩ := ih (push scheme parts part) (by omega)
    have kept : held (push scheme parts part) = held parts ++ [segment] := by
      rw [← pushed]
      refine held_of_ne fun root => ?_
      rw [root] at grown
      have none_held : (held [[]]).length = 0 := rfl
      have others := length_held_pushes_le notFile [[]] rest
      omega
    rw [List.foldl_cons]
    refine ⟨segment :: added, by rw [whole, kept, List.append_assoc, List.singleton_append], ?_⟩
    intro decoded
    obtain ⟨here, later⟩ := List.cons.inj decoded
    exact List.forall_mem_cons.mpr ⟨plain here, each later⟩

end Push

def opened (parts : List (List Char)) : List (List Char) :=
  if parts.getLast? = some [] then parts.dropLast else parts

def foundation (parts : List (List Char)) : List (List Char) :=
  if parts.length ≠ 1 ∧ parts.getLast? = some [] then parts.dropLast else parts

theorem below?_segments {u : Url} {parts : List (List Char)} (path : u.path = .segments parts)
    (texts : List String) :
    u.below? texts = some { u with
      path := .segments ((texts.map String.toList).foldl (push u.scheme) (foundation parts)) } := by
  rw [below?, path, List.foldl_map]
  rfl

theorem closed_segments {u : Url} {parts : List (List Char)} (path : u.path = .segments parts) :
    u.closed = { u with path := .segments (opened parts ++ [[]]) } := by
  rw [closed, path, opened]
  dsimp only
  split
  · next slash =>
    obtain ⟨front, rfl⟩ := List.getLast?_eq_some_iff.mp slash
    rw [List.dropLast_concat]
  · rfl

theorem held_foundation (parts : List (List Char)) :
    held (foundation (parts ++ [[]])) = held parts := by
  cases parts with
  | nil => rfl
  | cons part rest =>
    have long : (part :: rest ++ [[]]).length ≠ 1 := by simp
    have slash : (part :: rest ++ [[]]).getLast? = some [] := List.getLast?_concat
    rw [foundation, if_pos ⟨long, slash⟩, List.dropLast_concat]

/-- Texts pushed below a closed path become its segments, decoded, just when all of them are plain
and the path is more than two slashes. -/
theorem decoded_pushes_iff {scheme : List Char} (notFile : isFileScheme scheme = false)
    (base : List (List Char)) (part : List Char) (texts : List (List Char)) (nonempty : part ≠ [])
    (several : texts ≠ []) :
    ((part :: texts).foldl (push scheme) (foundation (base ++ [[]]))).map decode =
        base.map decode ++ (part :: texts).map utf8 ↔
      base ≠ [[]] ∧ ∀ p ∈ part :: texts, Plain p := by
  have percent := percent_mem_segmentSet scheme
  constructor
  · intro decoded
    have lengths : ((part :: texts).foldl (push scheme) (foundation (base ++ [[]]))).length =
        base.length + (part :: texts).length := by
      simpa only [List.length_map, List.length_append] using congrArg List.length decoded
    have more : 0 < texts.length := List.length_pos_iff.mpr several
    have whole : held ((part :: texts).foldl (push scheme) (foundation (base ++ [[]]))) =
        (part :: texts).foldl (push scheme) (foundation (base ++ [[]])) := by
      refine held_of_ne fun root => ?_
      rw [root, List.length_singleton, List.length_cons] at lengths
      omega
    have bound := length_held_pushes_le notFile (foundation (base ++ [[]])) (part :: texts)
    rw [whole, lengths, held_foundation] at bound
    -- The first push would have replaced the only segment of the base.
    have other : base ≠ [[]] := by
      rintro rfl
      rw [show held [[]] = [] from rfl, List.length_singleton, List.length_nil] at bound
      omega
    have grown := pushes_of_grown notFile (foundation (base ++ [[]])) (part :: texts)
    rw [whole, held_foundation, held_of_ne other] at grown
    obtain ⟨segments, path, plain⟩ := grown lengths
    rw [path, List.map_append] at decoded
    exact ⟨other, plain (List.append_cancel_left decoded)⟩
  · rintro ⟨other, plain⟩
    rw [pushes_of_plain notFile _ nonempty plain, held_foundation, held_of_ne other,
      List.map_append, List.map_map]
    exact congrArg _ (List.map_congr_left fun p _ => decode_encode percent p)

theorem withAuthority_ok {scheme cs : List Char} {u : Url} (ok : withAuthority scheme cs = .ok u) :
    u.scheme = scheme ∧ ∃ parts, u.path = .segments parts := by
  simp only [withAuthority, bind, Except.bind, pure, Except.pure, throw, throwThe,
    MonadExceptOf.throw] at ok
  -- Every way to an address ends in the same record.
  repeat' split at ok
  all_goals cases ok
  all_goals exact ⟨rfl, _, rfl⟩

theorem fileUrl_ok {scheme cs : List Char} {u : Url} (ok : fileUrl scheme cs = .ok u) :
    u.scheme = scheme ∧ ∃ parts, u.path = .segments parts := by
  simp only [fileUrl, bind, Except.bind, pure, Except.pure] at ok
  repeat' split at ok
  all_goals cases ok
  all_goals exact ⟨rfl, _, rfl⟩

theorem ofText_path {text : String} {u : Url} (ok : ofText text = .ok u)
    (special : isSpecialScheme u.scheme = true) : ∃ parts, u.path = .segments parts := by
  unfold ofText read at ok
  dsimp only at ok
  split at ok
  · cases ok
  · split at ok
    · exact (fileUrl_ok ok).2
    · split at ok
      · exact (withAuthority_ok ok).2
      · next other =>
        split at ok
        · exact (withAuthority_ok ok).2
        · cases ok
          exact ⟨_, rfl⟩
        · cases ok
          exact absurd special other

end CatalogMigration.Url
