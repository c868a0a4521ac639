import CatalogMigration.Proofs.Toml.Written
import CatalogMigration.Proofs.Versions.Renderings
import CatalogMigration.Versions.Basic

namespace CatalogMigration.Versions

open Toml

/-- A version that can stand between double quotes as it is. -/
def Plain (version : String) : Prop :=
  ∀ c ∈ version.toList, c ≠ '"' ∧ c ≠ '\\' ∧ (isControl c = true → c = '\t')

instance (version : String) : Decidable (Plain version) := List.decidableBAll _ version.toList

variable {versions : List String}

theorem Plain.unescaped {version : String} (plain : Plain version) : Unescaped version.toList := by
  intro c member
  obtain ⟨quote, backslash, control⟩ := plain c member
  refine ⟨?_, quote, backslash⟩
  by_cases marked : isControl c = true
  · simp [isPlain, control marked]
  · simp [isPlain, marked]

def listText (versions : List String) : List Char :=
  '[' :: (Text.joinedWith [',', ' '] (versions.map between) ++ [']'])

theorem toList_quoted (version : String) : (quoted version).toList = between version := by
  simp [quoted, between]

theorem toList_manifest (versions : List String) :
    (manifest versions).toList = headerLine [] "package" ++
      (pairLine [] "name" (between "migration_tests") ++ (pairLine [] "version" (between "0.0.0") ++
        '\n' :: (headerLine ["package", "metadata"] "migration-tests" ++
          pairLine [] "versions" (listText versions)))) := by
  have list : (", ".intercalate (versions.map quoted)).toList =
      Text.joinedWith [',', ' '] (versions.map between) := by
    rw [String.toList_intercalate, Text.joinedWith_eq, List.map_map]
    congr 1
    exact List.map_congr_left fun version _ => toList_quoted version
  have front : String.toList
      "[package]\nname = \"migration_tests\"\nversion = \"0.0.0\"\n\n[package.metadata.migration-tests]\n" =
        headerLine [] "package" ++ (pairLine [] "name" (between "migration_tests") ++
          (pairLine [] "version" (between "0.0.0") ++
            '\n' :: headerLine ["package", "metadata"] "migration-tests")) := by
    decide +kernel
  have last : pairLine [] "versions" (listText versions) =
      "versions = [".toList ++ Text.joinedWith [',', ' '] (versions.map between) ++
        "]\n".toList := by
    simp [pairLine, dotted, listText, Text.joinedWith]
  unfold manifest
  simp only [String.toList_append, list, front, last, List.append_assoc, List.cons_append]

def manifestDocument (versions : List String) : Toml :=
  .table [("package", .table [("metadata", .table [("migration-tests",
    .table [("versions", .array (versions.map .text))])]), ("name", .text "migration_tests"),
    ("version", .text "0.0.0")])]

theorem readValue_listText (plain : ∀ version ∈ versions, Plain version) {fuel : Nat}
    (enough : (listText versions).length < fuel) (rest : List Char) :
    readValue fuel 0 (listText versions ++ '\n' :: rest) =
      some (.array (versions.map .text), '\n' :: rest) := by
  have split : listText versions ++ '\n' :: rest = '[' ::
      (Text.joinedWith [',', ' '] (versions.map between) ++ ']' :: '\n' :: rest) := by
    simp [listText]
  have items := Text.length_le_joinedWith (show [',', ' '] ≠ [] by simp) (versions.map between)
  have counted : (listText versions).length =
      (Text.joinedWith [',', ' '] (versions.map between)).length + 2 := by simp [listText]
  have many : versions.length + 1 < fuel := by
    rw [List.length_map] at items
    omega
  rw [split]
  exact readValue_texts (fun version member => (plain version member).unescaped) many _

theorem ofText_manifest (plain : ∀ version ∈ versions, Plain version) :
    Toml.ofText (manifest versions) = .ok (manifestDocument versions) := by
  have long : 7 ≤ (manifest versions).toList.length + 1 := by
    rw [toList_manifest]
    simp [headerLine]
    omega
  obtain ⟨fuel, same⟩ := Nat.exists_eq_add_of_le' long
  have package : ∀ name ∈ ["package"], Bare name.toList := by decide
  have named : ∀ name ∈ ["name"], Bare name.toList := by decide
  have version : ∀ name ∈ ["version"], Bare name.toList := by decide
  have below : ∀ name ∈ ["package", "metadata", "migration-tests"], Bare name.toList := by decide
  have list : ∀ name ∈ ["versions"], Bare name.toList := by decide
  have fixed {t : String} (unescaped : Unescaped t.toList) (fuel : Nat) (rest : List Char)
      (enough : (between t).length < fuel) :
      readValue fuel 0 (between t ++ '\n' :: rest) = some (.text t, '\n' :: rest) := by
    obtain ⟨fuel, rfl⟩ := Nat.exists_eq_succ_of_ne_zero (Nat.ne_zero_of_lt enough)
    exact readValue_between unescaped (by simp) fuel 0
  have lines : statements? (fuel + 7) (manifest versions).toList =
      some [.table [] "package", .pair [] "name" (.text "migration_tests"),
        .pair [] "version" (.text "0.0.0"), .table ["package", "metadata"] "migration-tests",
        .pair [] "versions" (.array (versions.map .text))] := by
    rw [toList_manifest, statements?_headerLine package (by decide),
      statements?_pairLine named (by decide) (fun _ => rfl) fun fuel => fixed (by decide) fuel _,
      statements?_pairLine version (by decide) (fun _ => rfl) fun fuel => fixed (by decide) fuel _,
      statements?_blank, statements?_headerLine below (by decide),
      ← List.append_nil (pairLine _ _ _),
      statements?_pairLine list (by decide) (fun _ => rfl) fun fuel enough =>
        readValue_listText plain enough []]
    rfl
  have unmarked : withoutMark (manifest versions).toList = (manifest versions).toList := by
    rw [toList_manifest]
    rfl
  rw [Toml.ofText, Toml.read, unmarked, same, lines]
  rfl

theorem texts_of_map (index : Nat) (versions : List String) :
    texts index (versions.map .text) = .ok versions := by
  induction versions generalizing index with
  | nil => rfl
  | cons version versions ih =>
    rw [List.map_cons, texts, ih]
    rfl

/-- A manifest lists the versions it was written from, in their order and with repetitions, and both
renderings of what is read show them. -/
theorem manifest_lists_its_versions (plain : ∀ version ∈ versions, Plain version) :
    (∀ origin, ofText origin (manifest versions) = .ok versions) ∧
    Json.ofText? (matrix versions) = some (.object [("versions", .texts versions)]) ∧
    ∀ name, ∃ literal, assignment name versions = name ++ "=" ++ literal ∧
      Json.ofText? literal = some (.texts versions) := by
  have steps : (Toml.ofText (manifest versions)).mapError .unreadable >>= ofToml =
      texts 0 (versions.map .text) := by
    rw [ofText_manifest plain]
    rfl
  have listed (origin : String) : ofText origin (manifest versions) = .ok versions := by
    rw [ofText, steps, texts_of_map]
  have literal := (list_readsBack versions).ofText?_compact
  have whole : (Json.object [("versions", list versions)]).ReadsBack :=
    Json.readsBack_object (by simpa using list_readsBack versions)
  exact ⟨listed, whole.ofText?_compact, fun name => ⟨(list versions).compact, rfl, literal⟩⟩

theorem marks_stay_in_versions :
    let versions := ["1.10.0", "", "], # = 'x'\t", "é", "1.10.0"]
    (∀ version ∈ versions, Plain version) ∧
    ofText inlineOrigin (manifest versions) = .ok versions ∧
    matrix versions = "\x7b\"versions\":[\"1.10.0\",\"\",\"], # = 'x'\\t\",\"é\",\"1.10.0\"]\x7d" ∧
    Json.ofText? (matrix versions) = some (.object [("versions", .texts versions)]) := by
  intro versions
  have plain : ∀ version ∈ versions, Plain version := by decide +kernel
  obtain ⟨listed, shown, -⟩ := manifest_lists_its_versions plain
  exact ⟨plain, listed inlineOrigin, by decide +kernel, shown⟩

end CatalogMigration.Versions
