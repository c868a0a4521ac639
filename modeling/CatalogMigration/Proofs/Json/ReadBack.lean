import CatalogMigration.Json.Reader
import CatalogMigration.Json.Writer
import CatalogMigration.Proofs.Numeral.Digits
import CatalogMigration.Proofs.Text.Characters
import CatalogMigration.Proofs.Text.Parts

namespace CatalogMigration.Json

open Numeral

section Escapes

variable {c : Char}

theorem padded_control {n : Nat} (control : n < 0x20) :
    ∃ a b, padded 4 (hexadecimal n) = ['0', '0', a, b] ∧
      value? 16 ['0', '0', a, b] = some n ∧ 0x20 ≤ a.toNat ∧ 0x20 ≤ b.toNat := by
  have low : ∀ e : Fin 16, value? 16 ['0', '0', '0', digitChar e] = some e.val ∧
      0x20 ≤ (digitChar e).toNat := by decide
  have high : ∀ e : Fin 16, value? 16 ['0', '0', '1', digitChar e] = some (16 + e.val) ∧
      0x20 ≤ (digitChar e).toNat := by decide
  rw [hexadecimal]
  split
  · next small =>
    obtain ⟨value, visible⟩ := low ⟨n, small⟩
    exact ⟨'0', digitChar n, rfl, value, by decide, visible⟩
  · have one : n / 16 = 1 := by omega
    have sum : 16 + n % 16 = n := by omega
    obtain ⟨value, visible⟩ := high ⟨n % 16, Nat.mod_lt n (by decide)⟩
    rw [one, hexadecimal, if_pos (by decide)]
    exact ⟨'1', digitChar (n % 16), rfl, value.trans (congrArg some sum), by decide, visible⟩

theorem escape_cases (c : Char) :
    (∃ e, escape c = ['\\', e] ∧ e ≠ 'u' ∧ simpleEscape? e = some c ∧ 0x20 ≤ e.toNat) ∨
    (∃ a b, escape c = ['\\', 'u', '0', '0', a, b] ∧ c.toNat < 0x20 ∧
      value? 16 ['0', '0', a, b] = some c.toNat ∧ 0x20 ≤ a.toNat ∧ 0x20 ≤ b.toNat) ∨
    escape c = [c] ∧ 0x20 ≤ c.toNat ∧ c ≠ '"' ∧ c ≠ '\\' := by
  unfold escape
  split
  · exact .inl ⟨'"', by decide⟩
  · exact .inl ⟨'\\', by decide⟩
  · exact .inl ⟨'n', by decide⟩
  · exact .inl ⟨'r', by decide⟩
  · exact .inl ⟨'t', by decide⟩
  · exact .inl ⟨'b', by decide⟩
  · exact .inl ⟨'f', by decide⟩
  · next quote backslash _ _ _ _ _ =>
    by_cases control : c.toNat < 0x20
    · obtain ⟨a, b, digits, read⟩ := padded_control control
      exact .inr (.inl ⟨a, b, by rw [if_pos control, digits]; rfl, control, read⟩)
    · exact .inr (.inr ⟨if_neg control, by omega, quote, backslash⟩)

theorem joined?_unit {n : Nat} (control : n < 0x20) (ps : List Piece) :
    joined? (.unit n :: ps) = (joined? ps).map (Char.ofNat n :: ·) := by
  have high : isHighHalf n = false := by simp [isHighHalf]; omega
  have low : isLowHalf n = false := by simp [isLowHalf]; omega
  cases ps with
  | nil => simp [joined?, high, low]
  | cons p ps => cases p <;> simp [joined?, high, low]

theorem pieces_escape (c : Char) (cs : List Char) :
    ∃ p, pieces (escape c ++ cs) = (pieces cs).map (fun (ps, rest) => (p :: ps, rest)) ∧
      ∀ ps, joined? (p :: ps) = (joined? ps).map (c :: ·) := by
  rcases escape_cases c with ⟨e, written, other, meant, -⟩ | ⟨a, b, written, control, value, -⟩ |
    ⟨written, visible, quote, backslash⟩
  · refine ⟨.char c, ?_, fun ps => rfl⟩
    rw [written, List.cons_append, List.cons_append, List.nil_append, pieces]
    · simp only [meant]
    · intro a b c d rest same
      exact absurd same other
  · refine ⟨.unit c.toNat, ?_, fun ps => ?_⟩
    · rw [written]
      simp only [List.cons_append, List.nil_append, pieces, value]
    · rw [joined?_unit control, Char.ofNat_toNat]
  · refine ⟨.char c, ?_, fun ps => rfl⟩
    rw [written, List.singleton_append, pieces]
    · rw [if_neg]
      rintro (control | same)
      · omega
      · exact backslash same
    all_goals simp [quote, backslash]

theorem pieces_written (cs rest : List Char) :
    ∃ ps, pieces (cs.flatMap escape ++ '"' :: rest) = some (ps, rest) ∧ joined? ps = some cs := by
  induction cs with
  | nil => exact ⟨[], rfl, rfl⟩
  | cons c cs ih =>
    obtain ⟨ps, read, joined⟩ := ih
    obtain ⟨p, first, meant⟩ := pieces_escape c (cs.flatMap escape ++ '"' :: rest)
    refine ⟨p :: ps, ?_, ?_⟩
    · rw [List.flatMap_cons, List.append_assoc, first, read]
      rfl
    · rw [meant, joined]
      rfl

theorem visible_of_mem_escape {d : Char} (member : d ∈ escape c) : 0x20 ≤ d.toNat := by
  rcases escape_cases c with ⟨e, written, -, -, visible⟩ | ⟨a, b, written, -, -, first, second⟩ |
    ⟨written, visible, -⟩ <;> rw [written] at member
  · have all : ∀ d ∈ ['\\', e], 0x20 ≤ d.toNat := by simp [visible]
    exact all d member
  · have all : ∀ d ∈ ['\\', 'u', '0', '0', a, b], 0x20 ≤ d.toNat := by simp [first, second]
    exact all d member
  · exact List.mem_singleton.mp member ▸ visible

theorem visible_of_mem_writeText {s : String} (member : c ∈ writeText s) : 0x20 ≤ c.toNat := by
  rw [writeText, List.cons_append, List.mem_cons, List.mem_append, List.mem_singleton] at member
  rcases member with rfl | member | rfl
  · decide
  · obtain ⟨d, -, inside⟩ := List.mem_flatMap.mp member
    exact visible_of_mem_escape inside
  · decide

end Escapes

/-- A document that is read where it stands written, whatever follows it. -/
structure ReadsBack (j : Json) : Prop where
  reads : ∀ fuel rest, j.write.length ≤ fuel → readValue fuel (j.write ++ rest) = some (j, rest)
  starts : ∀ rest, skipBlanks (j.write ++ rest) = j.write ++ rest ∧
    (j.write ++ rest).head? ≠ some ']'

theorem readValue_text (fuel : Nat) (s : String) (rest : List Char) :
    readValue (fuel + 1) (writeText s ++ rest) = some (.text s, rest) := by
  obtain ⟨ps, read, joined⟩ := pieces_written s.toList rest
  have start : skipBlanks (writeText s ++ rest) =
      '"' :: (s.toList.flatMap escape ++ '"' :: rest) := by
    simp [writeText, skipBlanks, isBlank]
  rw [readValue, start]
  simp only [read, Option.map_some, ofPieces, joined, String.ofList_toList]

theorem readsBack_text (s : String) : ReadsBack (.text s) where
  reads fuel rest enough := by
    obtain ⟨fuel, rfl⟩ := Nat.exists_eq_succ_of_ne_zero (n := fuel) (by
      rintro rfl
      simp [write, writeText] at enough)
    exact readValue_text fuel s rest
  starts rest := by simp [write, writeText, skipBlanks, isBlank]

theorem writeItems_eq (items : List Json) : writeItems items = items.map write := by
  induction items with
  | nil => rfl
  | cons item items ih => rw [writeItems, ih, List.map_cons]

theorem readItems_written {items : List Json} (some_item : items ≠ [])
    (each : ∀ item ∈ items, ReadsBack item) (fuel : Nat) (rest : List Char)
    (enough : (Text.joinedWith [','] (writeItems items)).length < fuel) :
    readItems fuel (Text.joinedWith [','] (writeItems items) ++ ']' :: rest) =
      some (items, rest) := by
  induction items generalizing fuel with
  | nil => exact absurd rfl some_item
  | cons item items ih =>
    obtain ⟨first, others⟩ := List.forall_mem_cons.mp each
    obtain ⟨fuel, rfl⟩ := Nat.exists_eq_succ_of_ne_zero (Nat.ne_zero_of_lt enough)
    cases items with
    | nil =>
      rw [writeItems, writeItems, Text.joinedWith, readItems,
        first.reads fuel _ (Nat.le_of_lt_succ enough)]
      rfl
    | cons next items =>
      have joined : Text.joinedWith [','] (writeItems (item :: next :: items)) =
          item.write ++ ',' :: Text.joinedWith [','] (writeItems (next :: items)) := by
        simp [writeItems, Text.joinedWith]
      rw [joined, List.length_append, List.length_cons] at enough
      rw [joined, List.append_assoc, List.cons_append, readItems, first.reads fuel _ (by omega)]
      show Option.map _ (readItems fuel _) = _
      rw [ih (by simp) others fuel (by omega)]
      rfl

theorem readMembers_member {fuel : Nat} {name : String} {value : Json} {cs rest : List Char}
    (read : readValue fuel cs = some (value, rest)) (tail : List Char) :
    (rest = '\x7d' :: tail → readMembers (fuel + 1) (writeText name ++ ':' :: cs) =
      some ([(some name, value)], tail)) ∧
    (rest = ',' :: tail → readMembers (fuel + 1) (writeText name ++ ':' :: cs) =
      (readMembers fuel tail).map fun more => ((some name, value) :: more.1, more.2)) := by
  obtain ⟨ps, named, joined⟩ := pieces_written name.toList (':' :: cs)
  have start : skipBlanks (writeText name ++ ':' :: cs) =
      '"' :: (name.toList.flatMap escape ++ '"' :: ':' :: cs) := by
    simp [writeText, skipBlanks, isBlank]
  have colon : skipBlanks (':' :: cs) = ':' :: cs := by simp [skipBlanks, isBlank]
  constructor
  · rintro rfl
    have brace : skipBlanks ('\x7d' :: tail) = '\x7d' :: tail := by simp [skipBlanks, isBlank]
    rw [readMembers, start]
    simp [named, colon, read, brace, joined]
  · rintro rfl
    have comma : skipBlanks (',' :: tail) = ',' :: tail := by simp [skipBlanks, isBlank]
    rw [readMembers, start]
    simp [named, colon, read, comma, joined]

theorem readMembers_written {members : List (String × Json)} (some_member : members ≠ [])
    (each : ∀ m ∈ members, ReadsBack m.2) (fuel : Nat) (rest : List Char)
    (enough : (Text.joinedWith [','] (writeMembers members)).length < fuel) :
    readMembers fuel (Text.joinedWith [','] (writeMembers members) ++ '\x7d' :: rest) =
      some (members.map fun m => (some m.1, m.2), rest) := by
  induction members generalizing fuel with
  | nil => exact absurd rfl some_member
  | cons m members ih =>
    obtain ⟨name, value⟩ := m
    obtain ⟨first : ReadsBack value, others⟩ := List.forall_mem_cons.mp each
    obtain ⟨fuel, rfl⟩ := Nat.exists_eq_succ_of_ne_zero (Nat.ne_zero_of_lt enough)
    cases members with
    | nil =>
      rw [writeMembers, writeMembers, Text.joinedWith, List.length_append, List.length_cons]
        at enough
      rw [writeMembers, writeMembers, Text.joinedWith, List.append_assoc, List.cons_append]
      exact (readMembers_member (first.reads fuel _ (by omega)) rest).1 rfl
    | cons next members =>
      have joined : Text.joinedWith [','] (writeMembers ((name, value) :: next :: members)) =
          writeText name ++ ':' :: (value.write ++
            ',' :: Text.joinedWith [','] (writeMembers (next :: members))) := by
        simp [writeMembers, Text.joinedWith]
      rw [joined, List.length_append, List.length_cons, List.length_append, List.length_cons]
        at enough
      rw [joined, List.append_assoc, List.cons_append, List.append_assoc, List.cons_append,
        (readMembers_member (first.reads fuel _ (by omega)) _).2 rfl,
        ih (by simp) others fuel (by omega)]
      rfl

theorem joinedWith_cons_append (separator first : List Char) (parts : List (List Char))
    (rest : List Char) :
    ∃ tail, Text.joinedWith separator (first :: parts) ++ rest = first ++ tail := by
  cases parts with
  | nil => exact ⟨rest, rfl⟩
  | cons next parts =>
    exact ⟨separator ++ Text.joinedWith separator (next :: parts) ++ rest,
      by simp [Text.joinedWith]⟩

theorem readValue_items (fuel : Nat) {cs : List Char}
    (filled : ∀ rest, skipBlanks cs ≠ ']' :: rest) :
    readValue (fuel + 1) ('[' :: cs) =
      (readItems fuel cs).map fun read => (.array read.1, read.2) := by
  have bracket : skipBlanks ('[' :: cs) = '[' :: cs := by simp [skipBlanks, isBlank]
  rw [readValue, bracket]
  -- The branch for a closing bracket is the one that `filled` rules out.
  simp only

theorem readValue_members (fuel : Nat) {cs : List Char}
    (filled : ∀ rest, skipBlanks cs ≠ '\x7d' :: rest) :
    readValue (fuel + 1) ('\x7b' :: cs) =
      (readMembers fuel cs).map fun read => (ofNames read.1, read.2) := by
  have brace : skipBlanks ('\x7b' :: cs) = '\x7b' :: cs := by simp [skipBlanks, isBlank]
  rw [readValue, brace]
  simp only

theorem readsBack_array {items : List Json} (each : ∀ item ∈ items, ReadsBack item) :
    ReadsBack (.array items) where
  reads fuel rest enough := by
    rw [write, List.cons_append, List.length_cons, List.length_append,
      List.length_singleton] at enough
    obtain ⟨fuel, rfl⟩ := Nat.exists_eq_succ_of_ne_zero (n := fuel) (by omega)
    rw [write, List.cons_append, List.cons_append, List.append_assoc, List.singleton_append]
    cases items with
    | nil => rfl
    | cons item items =>
      have read := readItems_written (by simp) each fuel rest (by omega)
      -- The first item is no closing bracket, so the array is not taken for an empty one.
      obtain ⟨tail, split⟩ :=
        joinedWith_cons_append [','] item.write (writeItems items) (']' :: rest)
      obtain ⟨start, other⟩ := (each item (by simp)).starts tail
      rw [writeItems] at read ⊢
      rw [← split] at start other
      rw [readValue_items fuel fun rest same => by simp [start.symm.trans same] at other, read]
      rfl
  starts rest := by simp [write, skipBlanks, isBlank]

theorem readsBack_object {members : List (String × Json)}
    (each : ∀ m ∈ members, ReadsBack m.2) : ReadsBack (.object members) where
  reads fuel rest enough := by
    rw [write, List.cons_append, List.length_cons, List.length_append,
      List.length_singleton] at enough
    obtain ⟨fuel, rfl⟩ := Nat.exists_eq_succ_of_ne_zero (n := fuel) (by omega)
    rw [write, List.cons_append, List.cons_append, List.append_assoc, List.singleton_append]
    cases members with
    | nil => rfl
    | cons m members =>
      have read := readMembers_written (by simp) each fuel rest (by omega)
      have named : ofNames ((m :: members).map fun m => (some m.1, m.2)) =
          .object (m :: members) := by
        have all : ((m :: members).map fun m => (some m.1, m.2)).mapM
            (fun m : Option String × Json => m.1.map (·, m.2)) = some (m :: members) :=
          Text.mapM_map_eq_some (fun _ _ => rfl)
        rw [ofNames, all]
      obtain ⟨tail, split⟩ := joinedWith_cons_append [','] (writeText m.1 ++ ':' :: m.2.write)
        (writeMembers members) ('\x7d' :: rest)
      have start :
          skipBlanks (Text.joinedWith [','] (writeMembers (m :: members)) ++ '\x7d' :: rest) =
            '"' :: (m.1.toList.flatMap escape ++ '"' :: ':' :: m.2.write ++ tail) := by
        rw [writeMembers, split]
        simp [writeText, skipBlanks, isBlank]
      rw [readValue_members fuel fun rest same => by simp [start] at same, read, ← named]
      rfl
  starts rest := by simp [write, skipBlanks, isBlank]

theorem ReadsBack.ofText?_compact {j : Json} (back : ReadsBack j) : ofText? j.compact = some j := by
  have read := back.reads (2 * j.write.length + 2) [] (by omega)
  rw [List.append_nil] at read
  rw [ofText?, compact, String.toList_ofList, read?, read]
  rfl

end CatalogMigration.Json
