import CatalogMigration.Text.Grid
import Mathlib.Data.List.Forall2

namespace CatalogMigration.Text

variable {sep : Char} {part cs : List Char}

theorem splitOn_eq (sep : Char) (cs : List Char) : splitOn sep cs = cs.splitOn sep := by
  induction cs with
  | nil => rfl
  | cons c cs ih =>
    rw [splitOn, ih, List.splitOn_cons_eq_if_modifyHead]
    cases parts : cs.splitOn sep with
    | nil => exact absurd parts (List.splitOn_ne_nil sep cs)
    | cons part rest => by_cases same : c = sep <;> simp [same]

theorem joinedWith_eq (glue : List Char) (parts : List (List Char)) :
    joinedWith glue parts = glue.intercalate parts := by
  induction parts with
  | nil => rfl
  | cons part rest ih =>
    cases rest with
    | nil => exact List.intercalate_singleton.symm
    | cons next rest =>
      rw [joinedWith, ih, List.intercalate_cons_cons]
      exact List.cons_ne_nil _ _

theorem splitOn_joinedWith {parts : List (List Char)} (some_part : parts ≠ [])
    (clear : ∀ part ∈ parts, sep ∉ part) : splitOn sep (joinedWith [sep] parts) = parts := by
  rw [splitOn_eq, joinedWith_eq, List.splitOn_intercalate sep clear some_part]

theorem joinedWith_splitOn (sep : Char) (cs : List Char) :
    joinedWith [sep] (splitOn sep cs) = cs := by
  rw [splitOn_eq, joinedWith_eq, List.intercalate_splitOn]

theorem splitOn_append_cons (sep : Char) (front back : List Char) :
    splitOn sep (front ++ sep :: back) = splitOn sep front ++ splitOn sep back := by
  rw [splitOn_eq, splitOn_eq, splitOn_eq]
  exact List.splitOnP_append_cons front back (beq_self_eq_true sep)

theorem splitOn_eq_singleton (clear : sep ∉ cs) : splitOn sep cs = [cs] := by
  rw [splitOn_eq]
  exact List.splitOnP_eq_singleton fun c member =>
    beq_eq_false_iff_ne.mpr fun same => clear (same ▸ member)

theorem mem_of_mem_splitOn {c : Char} (piece : part ∈ splitOn sep cs) (member : c ∈ part) :
    c ∈ cs ∧ c ≠ sep := by
  rw [splitOn_eq] at piece
  induction cs generalizing part with
  | nil =>
    rw [List.mem_singleton.mp piece] at member
    cases member
  | cons d cs ih =>
    have later {part : List Char} (piece : part ∈ cs.splitOn sep) (member : c ∈ part) :
        c ∈ d :: cs ∧ c ≠ sep :=
      (ih piece member).imp_left (List.mem_cons_of_mem _)
    rw [List.splitOn_cons_eq_if_modifyHead] at piece
    split at piece
    · rcases List.mem_cons.mp piece with rfl | piece
      · cases member
      · exact later piece member
    · next other =>
      cases parts : cs.splitOn sep with
      | nil => exact absurd parts (List.splitOn_ne_nil sep cs)
      | cons first rest =>
        rw [parts, List.modifyHead_cons] at piece
        rcases List.mem_cons.mp piece with rfl | piece
        · rcases List.mem_cons.mp member with rfl | member
          · exact ⟨List.mem_cons_self, by simpa using other⟩
          · exact later (parts ▸ List.mem_cons_self) member
        · exact later (parts ▸ List.mem_cons_of_mem _ piece) member

theorem mem_joinedWith {glue : List Char} {parts : List (List Char)} {c : Char}
    (member : c ∈ joinedWith glue parts) : c ∈ glue ∨ ∃ part ∈ parts, c ∈ part := by
  rw [joinedWith_eq] at member
  induction parts with
  | nil => cases member
  | cons part rest ih =>
    cases rest with
    | nil => exact .inr ⟨part, List.mem_cons_self, by simpa using member⟩
    | cons next rest =>
      rw [List.intercalate_cons_cons, List.append_assoc, List.mem_append, List.mem_append] at member
      rcases member with member | member | member
      · exact .inr ⟨part, List.mem_cons_self, member⟩
      · exact .inl member
      · exact (ih member).imp_right fun ⟨p, piece, member⟩ =>
          ⟨p, List.mem_cons_of_mem _ piece, member⟩

theorem length_le_joinedWith {glue : List Char} (some_glue : glue ≠ []) (parts : List (List Char)) :
    parts.length ≤ (joinedWith glue parts).length + 1 := by
  have long := List.length_pos_iff.mpr some_glue
  induction parts with
  | nil => exact Nat.zero_le _
  | cons part parts ih =>
    cases parts with
    | nil => simp
    | cons next parts =>
      simp only [joinedWith, List.length_append, List.length_cons] at ih ⊢
      omega

section Reading

variable {α β : Type} {read : α → Option β} {as : List α} {bs : List β}

theorem mapM_eq_some_iff :
    as.mapM read = some bs ↔ List.Forall₂ (fun a b => read a = some b) as bs := by
  induction as generalizing bs with
  | nil => cases bs <;> simp
  | cons a as ih =>
    rw [List.mapM_cons, List.forall₂_cons_left_iff]
    cases first : read a with
    | none => simp
    | some b =>
      cases rest : as.mapM read with
      | none =>
        have unread : ∀ bs, ¬ List.Forall₂ (fun a b => read a = some b) as bs := fun bs each => by
          cases rest.symm.trans (ih.mpr each)
        simp [unread]
      | some bs' =>
        constructor
        · rintro ⟨⟩
          exact ⟨b, bs', rfl, ih.mp rest, rfl⟩
        · rintro ⟨b', bs'', same, each, rfl⟩
          cases same
          cases rest.symm.trans (ih.mpr each)
          rfl

theorem length_of_mapM (readAll : as.mapM read = some bs) : bs.length = as.length :=
  (mapM_eq_some_iff.mp readAll).length_eq.symm

theorem forall_of_mapM {P : β → Prop} (each : ∀ a ∈ as, ∀ b, read a = some b → P b)
    (readAll : as.mapM read = some bs) : ∀ b ∈ bs, P b := by
  have related := mapM_eq_some_iff.mp readAll
  clear readAll
  induction related with
  | nil => simp
  | cons here _ ih =>
    obtain ⟨first, later⟩ := List.forall_mem_cons.mp each
    exact List.forall_mem_cons.mpr ⟨first _ here, ih later⟩

theorem mapM_map_eq_some {write : β → α} (back : ∀ b ∈ bs, read (write b) = some b) :
    (bs.map write).mapM read = some bs := by
  rw [mapM_eq_some_iff, List.forall₂_map_left_iff, List.forall₂_same]
  exact back

end Reading

end CatalogMigration.Text
