import CatalogMigration.Client.Basic
import CatalogMigration.Proofs.Url.Path
import Mathlib.Data.List.Nodup

namespace CatalogMigration

namespace Url

def segmentBytes (u : Url) : List (List UInt8) :=
  match u.path with
  | .opaquePath _ => []
  | .segments parts => parts.map decode

def IsHttp (u : Url) : Prop := u.scheme = "http".toList ∨ u.scheme = "https".toList

theorem IsHttp.special {u : Url} (http : u.IsHttp) : isSpecialScheme u.scheme = true := by
  rcases http with scheme | scheme <;> rw [scheme] <;> decide

theorem IsHttp.not_file {u : Url} (http : u.IsHttp) : isFileScheme u.scheme = false := by
  rcases http with scheme | scheme <;> rw [scheme] <;> decide

end Url

namespace Client

open Url

def tablesFront (p : Option String) (space : String) : List String :=
  "v1" :: prefixSegments p ++ ["namespaces", spaceSegment space, "tables"]

def tablesPath (c : Client) (space : String) (parts : List (List Char)) : List (List Char) :=
  ((tablesFront c.pathPrefix space).map String.toList).foldl (push c.config.catalogUrl.scheme)
    (foundation parts)

variable {c : Client} {parts : List (List Char)}

theorem tableSegments_eq (c : Client) (space table : String) :
    c.tableSegments space table = tablesFront c.pathPrefix space ++ [table] := by
  simp [tableSegments, tablesFront]

theorem tableUrl_eq (path : c.config.catalogUrl.path = .segments parts) (space table : String) :
    c.tableUrl space table = .ok { c.config.catalogUrl with
      path := .segments
        (push c.config.catalogUrl.scheme (c.tablesPath space parts) table.toList) } := by
  rw [tableUrl, below?_segments path, tableSegments_eq, List.map_append, List.foldl_append]
  rfl

theorem tableUrl_of_opaque {text : List Char} (path : c.config.catalogUrl.path = .opaquePath text)
    (space table : String) :
    c.tableUrl space table = .error (.noBase c.config.catalogUrl.display) := by
  rw [tableUrl, below?, path]

theorem tableUrl_of_plain (notFile : isFileScheme c.config.catalogUrl.scheme = false)
    (path : c.config.catalogUrl.path = .segments parts) (space : String) {table : String}
    (plain : Plain table.toList) :
    c.tableUrl space table = .ok { c.config.catalogUrl with
      path := .segments (held (c.tablesPath space parts) ++
        [encode (segmentSet c.config.catalogUrl.scheme) table.toList]) } := by
  rw [tableUrl_eq path, push_of_plain notFile _ plain]

theorem eq_of_tableUrl (notFile : isFileScheme c.config.catalogUrl.scheme = false)
    (path : c.config.catalogUrl.path = .segments parts) (space : String) {table other : String}
    (plain : Plain table.toList) (plain' : Plain other.toList)
    (same : c.tableUrl space other = c.tableUrl space table) : other = table := by
  rw [tableUrl_of_plain notFile path space plain,
    tableUrl_of_plain notFile path space plain'] at same
  have paths := congrArg Url.path (Except.ok.inj same)
  have segments := (List.append_inj_right' (UrlPath.segments.inj paths) rfl)
  exact String.toList_inj.mp
    (encode_injective (percent_mem_segmentSet _) (List.singleton_inj.mp segments))

theorem formPair_purge (purge : Bool) :
    formPair "purgeRequested" (Text.truth purge) =
      ("purgeRequested=" ++ Text.truth purge).toList := by
  cases purge <;> decide

theorem dropUrl_eq {space table : String} {url : Url} (found : c.tableUrl space table = .ok url)
    (noQuery : url.query = none) (purge : Bool) :
    c.dropUrl space table purge =
      .ok { url with query := some ("purgeRequested=" ++ Text.truth purge).toList } := by
  rw [dropUrl, found]
  show Except.ok (url.withPair _ _) = _
  rw [withPair, noQuery, formPair_purge]

/-- Every table of a catalog of the web has an address below the catalog's, and a drop goes to that
address with one pair in its query. The address names the table just when nothing that is put into
it is a dot segment or holds a tab or a line break, and then it is no other table's. -/
theorem table_named_iff_plain {text : String} {u : Url} (read : Url.ofText text = .ok u)
    (http : u.IsHttp) (bare : u.query = none ∧ u.fragment = none)
    (warehouse : String) (authorization pathPrefix : Option String) (space table : String) :
    ∃ config base url, ClientConfig.ofText text warehouse = .ok config ∧
      u.path = .segments base ∧
      let c : Client := ⟨config, authorization, pathPrefix⟩
      let added := "v1" :: prefixSegments pathPrefix ++
        ["namespaces", spaceSegment space, "tables", table]
      c.tableUrl space table = .ok url ∧ url = { u with path := url.path } ∧
      (∀ purge, c.dropUrl space table purge =
        .ok { url with query := some ("purgeRequested=" ++ Text.truth purge).toList }) ∧
      (url.segmentBytes = (opened base).map decode ++ added.map (utf8 ·.toList) ↔
        opened base ≠ [[]] ∧ ∀ part ∈ added, Plain part.toList) ∧
      ∀ other, Plain table.toList → Plain other.toList → c.tableUrl space other = .ok url →
        other = table := by
  obtain ⟨base, path⟩ := ofText_path read http.special
  let config : ClientConfig := { catalogUrl := u.closed, warehouse }
  let c : Client := ⟨config, authorization, pathPrefix⟩
  have closed : u.closed = { u with path := .segments (opened base ++ [[]]) } :=
    closed_segments path
  have below : c.config.catalogUrl.path = .segments (opened base ++ [[]]) := by
    show u.closed.path = _
    rw [closed]
  have scheme : c.config.catalogUrl.scheme = u.scheme := rfl
  have notFile : isFileScheme c.config.catalogUrl.scheme = false := http.not_file
  have found := tableUrl_eq below space table
  refine ⟨config, base, _, ?_, path, found, ?_, dropUrl_eq found bare.1, ?_, ?_⟩
  · rw [ClientConfig.ofText, read]
  · rfl
  · have decoded := decoded_pushes_iff http.not_file (opened base) "v1".toList
      ((prefixSegments pathPrefix ++
        ["namespaces", spaceSegment space, "tables", table]).map String.toList)
      (by decide) (by simp)
    rw [← List.map_cons, List.map_map, List.forall_mem_map] at decoded
    rw [List.cons_append, ← decoded, segmentBytes]
    refine Eq.congr_left (congrArg (List.map decode) ?_)
    simp only [tablesPath, tablesFront, List.map_append, List.map_cons, List.map_nil,
      List.foldl_append, List.foldl_cons, List.foldl_nil, List.cons_append]
    rfl
  · intro other plain plain' same
    exact eq_of_tableUrl notFile below space plain plain' (same.trans found.symm)

/-- Dots, slashes and percent signs in names are no obstacle. -/
theorem encoded_dots_named :
    let u : Url := ⟨"https".toList, [], none, some (.domain "localhost".toList), none,
      .segments ["catalog".toList, []], none, none⟩
    let added := "v1" :: prefixSegments (some "a//b") ++
      ["namespaces", spaceSegment "outer.inner", "tables", "%2e%2E"]
    Url.ofText "https://LOCALHOST:443/catalog/" = .ok u ∧ u.IsHttp ∧
      (u.query = none ∧ u.fragment = none) ∧ (∀ part ∈ added, Plain part.toList) ∧
      ∃ config url, ClientConfig.ofText "https://LOCALHOST:443/catalog/" "demo" = .ok config ∧
        Client.tableUrl ⟨config, none, some "a//b"⟩ "outer.inner" "%2e%2E" = .ok url ∧
        url.segmentBytes = ["catalog", "v1", "a", "b", "namespaces", "outer\x1finner", "tables",
          "%2e%2E"].map (utf8 ·.toList) := by
  intro u added
  have read : Url.ofText "https://LOCALHOST:443/catalog/" = .ok u := by decide +kernel
  have http : u.IsHttp := .inr rfl
  have bare : u.query = none ∧ u.fragment = none := ⟨rfl, rfl⟩
  have plain : ∀ part ∈ added, Plain part.toList := by decide +kernel
  obtain ⟨config, base, url, made, path, found, -, -, named, -⟩ :=
    table_named_iff_plain read http bare "demo" none (some "a//b") "outer.inner" "%2e%2E"
  cases path
  refine ⟨read, http, bare, plain, config, url, made, found, ?_⟩
  rw [named.mpr ⟨by decide, plain⟩]
  decide +kernel

/-- A table whose name has a tab in it shares the address of another, and a drop of a table can be
addressed to all the tables of a namespace or to the namespace itself. -/
theorem tab_and_dots_misaddressed :
    let config : ClientConfig := {
      catalogUrl := ⟨"http".toList, [], none, some (.domain "localhost".toList), some 8181,
        .segments ["catalog".toList, []], none, none⟩
      warehouse := "demo" }
    let c : Client := ⟨config, none, none⟩
    let drop (table : String) := (c.dropUrl "my_namespace" table true).toOption.map Url.display
    ClientConfig.ofText "http://localhost:8181/catalog" "demo" = .ok config ∧
      c.tableUrl "my_namespace" "a\tb" = c.tableUrl "my_namespace" "ab" ∧
      drop "a\tb" = some
        "http://localhost:8181/catalog/v1/namespaces/my_namespace/tables/ab?purgeRequested=true" ∧
      drop ".." = some
        "http://localhost:8181/catalog/v1/namespaces/my_namespace/tables?purgeRequested=true" ∧
      drop "..\n" = some
        "http://localhost:8181/catalog/v1/namespaces/my_namespace/?purgeRequested=true" := by
  decide +kernel

end Client

end CatalogMigration
