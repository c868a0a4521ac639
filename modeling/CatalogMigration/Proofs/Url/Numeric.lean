import CatalogMigration.Proofs.Numeral.Digits
import CatalogMigration.Proofs.Text.Parts
import CatalogMigration.Url.Address

namespace CatalogMigration.Url

open Numeral Text

section FourBytes

def bytesOf (n : Nat) : List Nat :=
  [n / 16777216 % 256, n / 65536 % 256, n / 256 % 256, n / 1 % 256]

theorem bytesOf_lt {n b : Nat} (member : b ∈ bytesOf n) : b < 256 := by
  simp only [bytesOf, List.mem_cons, List.not_mem_nil, or_false] at member
  omega

theorem addressPart?_decimal {n : Nat} (byte : n < 256) : addressPart? (decimal n) = some n := by
  have all : ∀ m : Fin 256, addressPart? (decimal m) = some m.val := by decide +kernel
  exact all ⟨n, byte⟩

theorem splitOn_writeFourBytes (n : Nat) :
    splitOn '.' (writeFourBytes n) = (bytesOf n).map decimal := by
  refine splitOn_joinedWith (List.cons_ne_nil _ _) ?_
  refine List.forall_mem_map.mpr fun u _ member => ?_
  cases isDigit_of_mem_decimal member

theorem fourBytes?_writeFourBytes {n : Nat} (bound : n < 2 ^ 32) :
    fourBytes? (writeFourBytes n) = some n := by
  have numbers : ((bytesOf n).map decimal).mapM addressPart? = some (bytesOf n) :=
    mapM_map_eq_some fun b member => addressPart?_decimal (bytesOf_lt member)
  have last : ((bytesOf n).map decimal).getLast? ≠ some [] := by
    simp [bytesOf, decimal_ne_nil]
  rw [fourBytes?, splitOn_writeFourBytes]
  simp only [if_neg last, numbers]
  simp [bytesOf]
  omega

theorem endsInNumber_writeFourBytes (n : Nat) : endsInNumber (writeFourBytes n) = true := by
  have digits : (decimal (n / 1 % 256)).all isDigit = true :=
    List.all_eq_true.mpr fun c member => isDigit_of_mem_decimal member
  have nonempty := decimal_ne_nil (n / 1 % 256)
  rw [endsInNumber, splitOn_writeFourBytes]
  simp only [bytesOf, List.map_cons, List.map_nil, List.reverse_cons, List.reverse_nil,
    List.nil_append, List.cons_append]
  cases last : decimal (n / 1 % 256) with
  | nil => exact absurd last nonempty
  | cons c rest =>
    rw [last] at digits
    simp [digits]

theorem fourBytes?_lt {cs : List Char} {n : Nat} (read : fourBytes? cs = some n) :
    n < 2 ^ 32 := by
  rw [fourBytes?] at read
  dsimp only at read
  generalize (if (splitOn '.' cs).getLast? = some [] then (splitOn '.' cs).dropLast
    else splitOn '.' cs) = parts at read
  split at read
  · cases read
  next few =>
  obtain ⟨numbers, readAll, read⟩ := Option.bind_eq_some_iff.mp read
  obtain ⟨last, final, read⟩ := Option.bind_eq_some_iff.mp read
  have length := length_of_mapM readAll
  obtain ⟨before, rfl⟩ := List.getLast?_eq_some_iff.mp final
  rw [List.dropLast_concat] at read
  split at read
  · cases read
  next fits =>
  rw [List.length_append, List.length_singleton] at length
  rcases before with _ | ⟨a, _ | ⟨b, _ | ⟨c, _ | ⟨d, more⟩⟩⟩⟩
  case cons.cons.cons.cons =>
    simp only [List.length_cons] at length
    omega
  all_goals
    simp at fits read
    omega

end FourBytes

section EightPieces

theorem addressPiece?_lt {cs : List Char} {n : Nat} (read : addressPiece? cs = some n) :
    n < 65536 := by
  unfold addressPiece? at read
  split at read
  · cases read
  · next few =>
    calc n < 16 ^ cs.length := value?_lt read
      _ ≤ 16 ^ 4 := Nat.pow_le_pow_right (by decide) (Nat.not_lt.mp few)

theorem plainByte?_le {cs : List Char} {n : Nat} (read : plainByte? cs = some n) : n ≤ 255 := by
  unfold plainByte? at read
  split at read
  · cases read
  · split at read
    · simpa using (Option.filter_eq_some_iff.mp read).2
    · cases read

theorem pieces?_lt {cs : List Char} {ns : List Nat} (read : pieces? cs = some ns) :
    ∀ n ∈ ns, n < 65536 := by
  have each (parts : List (List Char)) {ns : List Nat}
      (readAll : parts.mapM addressPiece? = some ns) : ∀ n ∈ ns, n < 65536 :=
    forall_of_mapM (fun _ _ _ read => addressPiece?_lt read) readAll
  unfold pieces? at read
  dsimp only at read
  split at read
  · cases read
    simp
  split at read
  · obtain ⟨front, readFront, read⟩ := Option.bind_eq_some_iff.mp read
    split at read
    · obtain ⟨a, readA, read⟩ := Option.bind_eq_some_iff.mp read
      obtain ⟨b, readB, read⟩ := Option.bind_eq_some_iff.mp read
      obtain ⟨c, readC, read⟩ := Option.bind_eq_some_iff.mp read
      obtain ⟨d, readD, read⟩ := Option.bind_eq_some_iff.mp read
      cases read
      have boundA := plainByte?_le readA
      have boundB := plainByte?_le readB
      have boundC := plainByte?_le readC
      have boundD := plainByte?_le readD
      refine List.forall_mem_append.mpr ⟨each _ readFront, ?_⟩
      simp only [List.mem_cons, List.not_mem_nil, or_false]
      rintro n (rfl | rfl) <;> omega
    · cases read
  · exact each _ read

theorem eightPieces?_bounds {cs : List Char} {ns : List Nat} (read : eightPieces? cs = some ns) :
    ns.length = 8 ∧ ∀ n ∈ ns, n < 65536 := by
  unfold eightPieces? at read
  split at read
  · obtain ⟨readAll, length⟩ := Option.filter_eq_some_iff.mp read
    exact ⟨by simpa using length, pieces?_lt readAll⟩
  · split at read
    · cases read
    obtain ⟨front, readFront, read⟩ := Option.bind_eq_some_iff.mp read
    obtain ⟨back, readBack, read⟩ := Option.bind_eq_some_iff.mp read
    dsimp only at read
    split at read
    · cases read
    next room =>
    cases read
    refine ⟨by simp only [List.length_append, List.length_replicate]; omega, ?_⟩
    refine List.forall_mem_append.mpr ⟨List.forall_mem_append.mpr
      ⟨pieces?_lt readFront, fun n zero => ?_⟩, pieces?_lt readBack⟩
    rw [List.eq_of_mem_replicate zero]
    decide

def colonJoined (ns : List Nat) : List Char := joinedWith [':'] (ns.map hexadecimal)

theorem addressPiece?_hexadecimal {n : Nat} (bound : n < 65536) :
    addressPiece? (hexadecimal n) = some n := by
  have short : (hexadecimal n).length ≤ 4 := length_hexadecimal_le (k := 3) bound
  rw [addressPiece?, if_neg (Nat.not_lt.mpr short), value?_hexadecimal]

theorem notMem_hexadecimal {c : Char} (other : isHexDigit c = false) (n : Nat) :
    c ∉ hexadecimal n := fun member => by
  rw [isHexDigit_of_mem_hexadecimal member] at other
  cases other

theorem mem_colonJoined {c : Char} {ns : List Nat} (member : c ∈ colonJoined ns) :
    c = ':' ∨ isHexDigit c = true := by
  rcases mem_joinedWith member with glue | ⟨part, piece, member⟩
  · exact .inl (List.mem_singleton.mp glue)
  · obtain ⟨n, -, rfl⟩ := List.mem_map.mp piece
    exact .inr (isHexDigit_of_mem_hexadecimal member)

theorem colonJoined_cons (n m : Nat) (ns : List Nat) :
    colonJoined (n :: m :: ns) = hexadecimal n ++ ':' :: colonJoined (m :: ns) := by
  simp [colonJoined, joinedWith]

theorem colonJoined_head (n : Nat) (ns : List Nat) :
    ∃ c rest, colonJoined (n :: ns) = c :: rest ∧ c ≠ ':' := by
  cases written : hexadecimal n with
  | nil => exact absurd written (hexadecimal_ne_nil n)
  | cons c rest =>
    have other : c ≠ ':' := by
      rintro rfl
      exact notMem_hexadecimal (by decide) n (written ▸ List.mem_cons_self)
    cases ns with
    | nil => exact ⟨c, rest, written, other⟩
    | cons m ns => exact ⟨c, _, by rw [colonJoined_cons, written]; rfl, other⟩

theorem pieces?_colonJoined {ns : List Nat} (bound : ∀ n ∈ ns, n < 65536) :
    pieces? (colonJoined ns) = some ns := by
  cases ns with
  | nil => rfl
  | cons n ns =>
    obtain ⟨c, rest, text, -⟩ := colonJoined_head n ns
    have parts : splitOn ':' (colonJoined (n :: ns)) = (n :: ns).map hexadecimal :=
      splitOn_joinedWith (List.cons_ne_nil _ _)
        (List.forall_mem_map.mpr fun n _ => notMem_hexadecimal (by decide) n)
    have plain : (((n :: ns).map hexadecimal).getLast?.getD []).contains '.' = false := by
      cases last : ((n :: ns).map hexadecimal).getLast? with
      | none => rfl
      | some part =>
        obtain ⟨m, -, rfl⟩ := List.mem_map.mp (List.mem_of_getLast? last)
        simpa using notMem_hexadecimal (c := '.') (by decide) m
    rw [pieces?, parts, if_neg (by simp [text])]
    dsimp only
    rw [plain, if_neg Bool.false_ne_true]
    exact mapM_map_eq_some fun m member => addressPiece?_hexadecimal (bound m member)

theorem gap?_append {part : List Char} (clear : ':' ∉ part) (rest : List Char) :
    gap? (part ++ rest) = (gap? rest).map fun (before, after) => (part ++ before, after) := by
  induction part with
  | nil => simp
  | cons c part ih =>
    rw [List.mem_cons, not_or] at clear
    rw [List.cons_append, gap?, ih clear.2, Option.map_map]
    · rfl
    · rintro _ same
      exact absurd same.symm clear.1

theorem gap?_colon {c : Char} (other : c ≠ ':') (rest : List Char) :
    gap? (':' :: c :: rest) =
      (gap? (c :: rest)).map fun (before, after) => (':' :: before, after) := by
  rw [gap?]
  rintro _ _ same
  exact absurd (List.cons.inj same).1 other

theorem gap?_colonJoined (ns : List Nat) (rest : List Char) :
    gap? (colonJoined ns ++ rest) =
      (gap? rest).map fun (before, after) => (colonJoined ns ++ before, after) := by
  induction ns with
  | nil => simp [colonJoined, joinedWith]
  | cons n ns ih =>
    have clear := notMem_hexadecimal (c := ':') (by decide) n
    cases ns with
    | nil => exact gap?_append clear rest
    | cons m ns =>
      obtain ⟨c, text, head, other⟩ := colonJoined_head m ns
      rw [colonJoined_cons, List.append_assoc, gap?_append clear, List.cons_append, head,
        List.cons_append, gap?_colon other, ← List.cons_append, ← head, ih]
      cases gap? rest <;> simp

theorem replicate_zeros (ns : List Nat) :
    List.replicate (ns.takeWhile (· = 0)).length 0 ++
      ns.drop (ns.takeWhile (· = 0)).length = ns := by
  have zeros : List.replicate (ns.takeWhile (· = 0)).length 0 = ns.takeWhile (· = 0) := by
    refine (List.eq_replicate_iff.mpr ⟨rfl, fun m member => ?_⟩).symm
    simpa using List.all_eq_true.mp List.all_takeWhile m member
  have rest : ns.drop (ns.takeWhile (· = 0)).length = ns.dropWhile (· = 0) :=
    (congrArg (List.drop _) List.takeWhile_append_dropWhile.symm).trans List.drop_left
  rw [zeros, rest, List.takeWhile_append_dropWhile]

theorem longestZeros_split (ns : List Nat) :
    ns.take (longestZeros ns).1 ++ List.replicate (longestZeros ns).2 0 ++
      ns.drop ((longestZeros ns).1 + (longestZeros ns).2) = ns := by
  induction ns with
  | nil => rfl
  | cons n ns ih =>
    rw [longestZeros]
    dsimp only
    split
    · rw [Nat.zero_add, List.take_zero, List.nil_append]
      exact replicate_zeros (n :: ns)
    · rw [Nat.add_right_comm, List.take_succ_cons, List.drop_succ_cons, List.cons_append,
        List.cons_append, ih]

theorem eightPieces?_writeEightPieces {ns : List Nat} (length : ns.length = 8)
    (bound : ∀ n ∈ ns, n < 65536) : eightPieces? (writeEightPieces ns) = some ns := by
  have split := longestZeros_split ns
  rw [writeEightPieces]
  dsimp only
  generalize (longestZeros ns).1 = start at split ⊢
  generalize (longestZeros ns).2 = zeros at split ⊢
  split
  · have whole : gap? (colonJoined ns) = none := by
      simpa [gap?] using gap?_colonJoined ns []
    rw [eightPieces?, ← colonJoined, whole, pieces?_colonJoined bound]
    simp [length]
  · next several =>
    -- No double colon is in front of the one that stands for the zeros.
    have found : gap? (colonJoined (ns.take start) ++
        ':' :: ':' :: colonJoined (ns.drop (start + zeros))) =
        some (colonJoined (ns.take start), colonJoined (ns.drop (start + zeros))) := by
      rw [gap?_colonJoined, gap?]
      simp
    have noPoint : '.' ∉ colonJoined (ns.take start) := fun member => by
      rcases mem_colonJoined member with same | digit
      · cases same
      · cases digit
    have lengths := congrArg List.length split
    rw [List.length_append, List.length_append, List.length_replicate, length] at lengths
    have missing : 8 - ((ns.take start).length + (ns.drop (start + zeros)).length) = zeros := by
      omega
    rw [eightPieces?, ← colonJoined, ← colonJoined, found]
    dsimp only
    rw [if_neg (by simpa using noPoint),
      pieces?_colonJoined fun n member => bound n (List.mem_of_mem_take member),
      pieces?_colonJoined fun n member => bound n (List.mem_of_mem_drop member)]
    show (if _ then none else _) = some ns
    rw [missing, if_neg (by omega), split]

theorem mem_writeEightPieces {c : Char} {ns : List Nat} (member : c ∈ writeEightPieces ns) :
    c = ':' ∨ isHexDigit c = true := by
  rw [writeEightPieces] at member
  dsimp only at member
  split at member
  · exact mem_colonJoined member
  · rw [List.mem_append, List.mem_cons, List.mem_cons] at member
    rcases member with member | same | same | member
    · exact mem_colonJoined member
    · exact .inl same
    · exact .inl same
    · exact mem_colonJoined member

end EightPieces

end CatalogMigration.Url
