import CatalogMigration.Proofs.Json.ReadBack
import CatalogMigration.Versions.Basic

namespace CatalogMigration.Versions

variable {name : String} {versions : List String}

/-- Both renderings hold the literal, on a single line, and the literal is the list. -/
structure Rendered (name : String) (versions : List String) (literal : String) : Prop where
  assigned : (assignment name versions).toList.span (· ≠ '=') = (name.toList, '=' :: literal.toList)
  wrapped : matrix versions = "\x7b\"versions\":" ++ literal ++ "\x7d"
  decoded : Json.ofText? literal = some (.texts versions)
  visible : ∀ c ∈ literal.toList, 0x20 ≤ c.toNat
  matrix_decoded : Json.ofText? (matrix versions) = some (.object [("versions", .texts versions)])
  matrix_visible : ∀ c ∈ (matrix versions).toList, 0x20 ≤ c.toNat

theorem list_readsBack (versions : List String) : (list versions).ReadsBack := by
  refine Json.readsBack_array fun item member => ?_
  obtain ⟨version, -, rfl⟩ := List.mem_map.mp member
  exact Json.readsBack_text version

theorem visible_of_mem_list {c : Char} (member : c ∈ (list versions).compact.toList) :
    0x20 ≤ c.toNat := by
  rw [Json.compact, String.toList_ofList, list, Json.texts, Json.write, List.cons_append,
    List.mem_cons, List.mem_append, List.mem_singleton] at member
  rcases member with rfl | member | rfl
  · decide
  · rcases Text.mem_joinedWith member with comma | ⟨part, written, member⟩
    · rw [List.mem_singleton.mp comma]
      decide
    · rw [Json.writeItems_eq, List.map_map] at written
      obtain ⟨version, -, rfl⟩ := List.mem_map.mp written
      exact Json.visible_of_mem_writeText member
  · decide

theorem matrix_eq (versions : List String) :
    matrix versions = "\x7b\"versions\":" ++ (list versions).compact ++ "\x7d" := by
  have name : Json.writeText "versions" = "\"versions\"".toList := by decide
  apply String.toList_injective
  simp only [matrix, Json.compact, Json.write, Json.writeMembers, Text.joinedWith, name,
    String.toList_append, String.toList_ofList]
  simp

theorem rendered (versions : List String) (plain : '=' ∉ name.toList) :
    Rendered name versions (list versions).compact where
  assigned := by
    rw [assignment, String.toList_append, String.toList_append, List.append_assoc]
    refine Text.span_append (fun c member => ?_) (fun c first => ?_)
    · exact decide_eq_true fun same => plain (same ▸ member)
    · cases first
      rfl
  wrapped := matrix_eq versions
  decoded := (list_readsBack versions).ofText?_compact
  visible _ := visible_of_mem_list
  matrix_decoded := (Json.readsBack_object (by simpa using list_readsBack versions)).ofText?_compact
  matrix_visible c member := by
    have opening : "\x7b\"versions\":".toList.all (fun c => decide (0x20 ≤ c.toNat)) = true := by
      decide
    have closing : "\x7d".toList.all (fun c => decide (0x20 ≤ c.toNat)) = true := by decide
    rw [matrix_eq, String.toList_append, String.toList_append, List.mem_append, List.mem_append]
      at member
    rcases member with (member | member) | member
    · exact of_decide_eq_true (List.all_eq_true.mp opening c member)
    · exact visible_of_mem_list member
    · exact of_decide_eq_true (List.all_eq_true.mp closing c member)

/-- A name without the sign of assignment is followed by the literal that the matrix holds. The
list is read back from it, so no other list is rendered the same. -/
theorem renderings_agree (plain : '=' ∉ name.toList) :
    (∃ literal, Rendered name versions literal) ∧
    (∀ others, matrix others = matrix versions → others = versions) ∧
    ∀ (name' : String) (others : List String), '=' ∉ name'.toList →
      assignment name' others = assignment name versions → name' = name ∧ others = versions := by
  have one : ∀ {as bs : List String}, Json.texts as = Json.texts bs → as = bs := by
    intro as bs same
    injection same with items
    exact List.map_injective_iff.mpr (fun _ _ same => by injection same) items
  refine ⟨⟨_, rendered versions plain⟩, fun others same => ?_, fun name' others plain' same => ?_⟩
  · have read := (rendered others plain).matrix_decoded
    rw [same, (rendered versions plain).matrix_decoded] at read
    injection read with read
    injection read with members
    injection members with member
    injection member with _ list
    exact (one list).symm
  · have split := (rendered others plain').assigned
    rw [same, (rendered versions plain).assigned] at split
    injection split with names literals
    injection literals with _ literal
    have read := (rendered others plain').decoded
    rw [← String.toList_injective literal, (rendered versions plain).decoded] at read
    injection read with list
    exact ⟨(String.toList_injective names).symm, (one list).symm⟩

theorem renderings_agree_marks :
    '=' ∉ standardName.toList ∧
    matrix ["1.10.0", "\"\\", "=\r\n\x01", "é", "1.10.0", ""] = "\x7b\"versions\":" ++
      "[\"1.10.0\",\"\\\"\\\\\",\"=\\r\\n\\u0001\",\"é\",\"1.10.0\",\"\"]" ++ "\x7d" ∧
    (∃ literal,
      Rendered standardName ["1.10.0", "\"\\", "=\r\n\x01", "é", "1.10.0", ""] literal) ∧
    ∀ others, matrix others = matrix ["1.10.0", "\"\\", "=\r\n\x01", "é", "1.10.0", ""] →
      others = ["1.10.0", "\"\\", "=\r\n\x01", "é", "1.10.0", ""] :=
  have plain : '=' ∉ standardName.toList := by decide
  ⟨plain, by decide +kernel, (renderings_agree plain).1, (renderings_agree plain).2.1⟩

end CatalogMigration.Versions
