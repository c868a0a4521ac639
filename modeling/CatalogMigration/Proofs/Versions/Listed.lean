import CatalogMigration.Proofs.Versions.Manifest
import CatalogMigration.Versions.Basic
import Mathlib.Data.List.Basic
import Mathlib.Data.List.Infix

namespace CatalogMigration

namespace Toml

def at? (v : Toml) (names : List String) : Option Toml :=
  names.foldlM (fun v name => v.member? name) v

variable {v w : Toml} {name : String} {names missing : List String}

@[simp]
theorem at?_nil (v : Toml) : v.at? [] = some v := rfl

theorem at?_cons (v : Toml) (name : String) (names : List String) :
    v.at? (name :: names) = (v.member? name).bind (·.at? names) := rfl

/-- The shortest beginning of a path that leads to no value. -/
structure FirstMissing (v : Toml) (names missing : List String) : Prop where
  inside : missing <+: names
  nowhere : v.at? missing = none
  shortest : ∀ front, front <+: names → v.at? front = none → missing.length ≤ front.length

theorem firstMissing_of_member?_eq_none (absent : v.member? name = none) :
    v.FirstMissing (name :: names) [name] where
  inside := List.cons_prefix_cons.mpr ⟨rfl, List.nil_prefix⟩
  nowhere := by rw [at?_cons, absent, Option.bind_none]
  shortest front _ nowhere := by
    cases front with
    | nil => cases nowhere
    | cons first rest => simp

theorem firstMissing_below (present : v.member? name = some w) :
    v.FirstMissing (name :: names) (name :: missing) ↔ w.FirstMissing names missing := by
  have below (front : List String) : v.at? (name :: front) = w.at? front := by
    rw [at?_cons, present, Option.bind_some]
  constructor
  · rintro ⟨inside, nowhere, shortest⟩
    refine ⟨(List.cons_prefix_cons.mp inside).2, (below missing).symm.trans nowhere,
      fun front among lost => ?_⟩
    have longer := shortest (name :: front) (List.cons_prefix_cons.mpr ⟨rfl, among⟩)
      ((below front).trans lost)
    simpa using longer
  · rintro ⟨inside, nowhere, shortest⟩
    refine ⟨List.cons_prefix_cons.mpr ⟨rfl, inside⟩, (below missing).trans nowhere,
      fun front among lost => ?_⟩
    cases front with
    | nil => cases lost
    | cons first rest =>
      obtain ⟨rfl, inner⟩ := List.cons_prefix_cons.mp among
      simpa using shortest rest inner ((below rest).symm.trans lost)

theorem exists_firstMissing (nowhere : v.at? names = none) :
    ∃ missing, v.FirstMissing names missing := by
  induction names generalizing v with
  | nil => cases nowhere
  | cons name names ih =>
    cases member : v.member? name with
    | none => exact ⟨[name], firstMissing_of_member?_eq_none member⟩
    | some w =>
      have lost : w.at? names = none := by rwa [at?_cons, member, Option.bind_some] at nowhere
      obtain ⟨missing, first⟩ := ih lost
      exact ⟨name :: missing, (firstMissing_below member).mpr first⟩

end Toml

namespace Versions

variable {document v : Toml} {seen names missing : List String}

theorem lookup_of_at? (there : document.at? names = some v) :
    lookup seen names document = .ok v := by
  induction names generalizing seen document with
  | nil =>
    cases there
    rfl
  | cons name names ih =>
    rw [Toml.at?_cons] at there
    obtain ⟨w, member, there⟩ := Option.bind_eq_some_iff.mp there
    rw [lookup, member]
    exact ih there

theorem lookup_of_firstMissing (first : document.FirstMissing names missing) :
    lookup seen names document = .error (.missing (seen ++ missing)) := by
  induction names generalizing seen missing document with
  | nil =>
    cases List.prefix_nil.mp first.inside
    cases first.nowhere
  | cons name names ih =>
    cases missing with
    | nil => cases first.nowhere
    | cons head missing =>
      obtain ⟨rfl, -⟩ := List.cons_prefix_cons.mp first.inside
      cases member : document.member? head with
      | none =>
        -- One name leads nowhere already, so no longer beginning is the shortest.
        have alone : document.FirstMissing (head :: names) [head] :=
          Toml.firstMissing_of_member?_eq_none member
        have short := first.shortest [head] alone.inside alone.nowhere
        have last : missing = [] := by simpa using short
        rw [lookup, member, last]
      | some w =>
        rw [lookup, member]
        show lookup (seen ++ [head]) names w = _
        rw [ih ((Toml.firstMissing_below member).mp first), List.append_assoc,
          List.singleton_append]

theorem texts_of_other {before : List String} {entry : Toml} {after : List Toml}
    (other : ∀ s, entry ≠ .text s) (index : Nat) :
    texts index (before.map .text ++ entry :: after) =
      .error (.notText (index + before.length) entry) := by
  induction before generalizing index with
  | nil =>
    cases entry with
    | text s => exact absurd rfl (other s)
    | _ => rfl
  | cons version before ih =>
    have counted : index + 1 + before.length = index + (version :: before).length := by
      rw [List.length_cons]
      omega
    rw [List.map_cons, List.cons_append, texts, ih, counted]
    rfl

theorem all_texts_or_other (items : List Toml) :
    (∃ versions : List String, items = versions.map .text) ∨
      ∃ (before : List String) (entry : Toml) (after : List Toml),
        items = before.map .text ++ entry :: after ∧ ∀ s, entry ≠ .text s := by
  induction items with
  | nil => exact .inl ⟨[], rfl⟩
  | cons item items ih =>
    by_cases text : ∃ s, item = .text s
    · obtain ⟨s, rfl⟩ := text
      rcases ih with ⟨versions, rfl⟩ | ⟨before, entry, after, rfl, other⟩
      · exact .inl ⟨s :: versions, rfl⟩
      · exact .inr ⟨s :: before, entry, after, rfl, other⟩
    · exact .inr ⟨[], item, items, rfl, fun s same => text ⟨s, same⟩⟩

/-- Why a document lists no versions: the path to the list ends early, it ends in something else, or
an item of the list is no text. -/
inductive Refused (document : Toml) : String → Prop
  | missing {names : List String} (first : document.FirstMissing path names) :
    Refused document ("missing key " ++ ".".intercalate names)
  | noList {v : Toml} (there : document.at? path = some v) (other : ∀ items, v ≠ .array items) :
    Refused document "package.metadata.migration-tests.versions is not an array"
  | noText {before : List String} {entry : Toml} {after : List Toml}
    (there : document.at? path = some (.array (before.map .text ++ entry :: after)))
    (other : ∀ s, entry ≠ .text s) :
    Refused document ("package.metadata.migration-tests.versions[" ++
      Numeral.decimalText before.length ++ "] is not a string: " ++ entry.display)

def ofDocument (origin : String) (document : Toml) : Except Failure (List String) :=
  (ofToml document).mapError fun fault => .config origin fault.message

theorem ofText_of_read {contents : String} (read : Toml.ofText contents = .ok document)
    (origin : String) : ofText origin contents = ofDocument origin document := by
  have steps : (Toml.ofText contents).mapError .unreadable >>= ofToml = ofToml document := by
    rw [read]
    rfl
  rw [ofText, steps, ofDocument]
  cases ofToml document <;> rfl

theorem ofDocument_of_texts {versions : List String}
    (there : document.at? path = some (.array (versions.map .text))) (origin : String) :
    ofDocument origin document = .ok versions := by
  rw [ofDocument, ofToml, lookup_of_at? there]
  simp only [texts_of_map]
  rfl

theorem ofDocument_of_refused {reason : String} (refused : Refused document reason)
    (origin : String) : ofDocument origin document = .error (.config origin reason) := by
  cases refused with
  | missing first =>
    rw [ofDocument, ofToml, lookup_of_firstMissing first]
    rfl
  | @noList v there other =>
    rw [ofDocument, ofToml, lookup_of_at? there]
    cases v with
    | array items => exact absurd rfl (other items)
    | _ => rfl
  | noText there other =>
    rw [ofDocument, ofToml, lookup_of_at? there]
    simp only [texts_of_other other, Nat.zero_add]
    rfl

theorem texts_or_refused (document : Toml) :
    (∃ versions : List String, document.at? path = some (.array (versions.map .text))) ∨
      ∃ reason, Refused document reason := by
  cases there : document.at? path with
  | none =>
    obtain ⟨missing, first⟩ := Toml.exists_firstMissing there
    exact .inr ⟨_, .missing first⟩
  | some v =>
    by_cases array : ∃ items, v = .array items
    · obtain ⟨items, rfl⟩ := array
      rcases all_texts_or_other items with ⟨versions, rfl⟩ | ⟨before, entry, after, rfl, other⟩
      · exact .inl ⟨versions, rfl⟩
      · exact .inr ⟨_, .noText there other⟩
    · exact .inr ⟨_, .noList there fun items same => array ⟨items, same⟩⟩

theorem ofDocument_eq_ok_iff {origin : String} {versions : List String} :
    ofDocument origin document = .ok versions ↔
      document.at? path = some (.array (versions.map .text)) := by
  refine ⟨fun listed => ?_, fun there => ofDocument_of_texts there origin⟩
  rcases texts_or_refused document with ⟨others, there⟩ | ⟨reason, refused⟩
  · have same := ofDocument_of_texts there origin
    rw [listed] at same
    cases same
    exact there
  · cases listed.symm.trans (ofDocument_of_refused refused origin)

theorem ofDocument_eq_error_iff {origin : String} {failure : Failure} :
    ofDocument origin document = .error failure ↔
      ∃ reason, failure = .config origin reason ∧ Refused document reason := by
  constructor
  · intro failed
    rcases texts_or_refused document with ⟨versions, there⟩ | ⟨reason, refused⟩
    · cases failed.symm.trans (ofDocument_of_texts there origin)
    · have same := ofDocument_of_refused refused origin
      rw [failed] at same
      cases same
      exact ⟨reason, rfl, refused⟩
  · rintro ⟨reason, rfl, refused⟩
    exact ofDocument_of_refused refused origin

/-- Documents that lead equally far on a path and to the same value at its end. -/
structure AlikeAlong (names : List String) (document other : Toml) : Prop where
  far : ∀ front, front <+: names → (document.at? front = none ↔ other.at? front = none)
  same : document.at? names = other.at? names

theorem AlikeAlong.here (v : Toml) : AlikeAlong [] v v := ⟨fun _ _ => .rfl, rfl⟩

theorem AlikeAlong.below {other v w : Toml} {name : String}
    (member : document.member? name = some v) (other_member : other.member? name = some w)
    (alike : AlikeAlong names v w) :
    AlikeAlong (name :: names) document other := by
  have first (front : List String) : document.at? (name :: front) = v.at? front := by
    rw [Toml.at?_cons, member, Option.bind_some]
  have second (front : List String) : other.at? (name :: front) = w.at? front := by
    rw [Toml.at?_cons, other_member, Option.bind_some]
  refine ⟨fun front inside => ?_, by rw [first, second, alike.same]⟩
  cases front with
  | nil => simp
  | cons head front =>
    obtain ⟨rfl, inner⟩ := List.cons_prefix_cons.mp inside
    rw [first, second]
    exact alike.far front inner

theorem Refused.alike {other : Toml} {reason : String} (alike : AlikeAlong path document other)
    (refused : Refused document reason) : Refused other reason := by
  cases refused with
  | missing first =>
    exact .missing
      { inside := first.inside
        nowhere := (alike.far _ first.inside).mp first.nowhere
        shortest front inside nowhere :=
          first.shortest front inside ((alike.far front inside).mpr nowhere) }
  | noList there other => exact .noList (alike.same ▸ there) other
  | noText there other => exact .noText (alike.same ▸ there) other

theorem ofDocument_alike {other : Toml} (alike : AlikeAlong path document other) (origin : String) :
    ofDocument origin other = ofDocument origin document := by
  rcases texts_or_refused document with ⟨versions, there⟩ | ⟨reason, refused⟩
  · rw [ofDocument_of_texts there, ofDocument_of_texts (alike.same ▸ there)]
  · rw [ofDocument_of_refused refused, ofDocument_of_refused (refused.alike alike)]

/-- A document lists versions just when its path leads to an array of texts, which are the versions
as they stand there. Otherwise it is refused for the first thing that is amiss on the way. What lies
elsewhere in the document makes no difference. -/
theorem listed_iff_texts_at_path (origin : String) (document : Toml) :
    (∀ versions, ofDocument origin document = .ok versions ↔
      document.at? path = some (.array (versions.map .text))) ∧
    (∀ failure, ofDocument origin document = .error failure ↔
      ∃ reason, failure = .config origin reason ∧ Refused document reason) ∧
    (∀ other, AlikeAlong path document other →
      ofDocument origin other = ofDocument origin document) ∧
    ∀ contents, Toml.ofText contents = .ok document →
      ofText origin contents = ofDocument origin document :=
  ⟨fun _ => ofDocument_eq_ok_iff, fun _ => ofDocument_eq_error_iff,
    fun _ alike => ofDocument_alike alike origin, fun _ read => ofText_of_read read origin⟩

/-- A written manifest lists its versions, and so does a document that shares only the path. -/
theorem list_found_among_others :
    let versions := ["0.2.0", "0.1.0", "0.2.0"]
    let list : Toml := .array (versions.map .text)
    let other : Toml := .table [("package", .table [("metadata", .table [("migration-tests",
      .table [("exclude", .array []), ("versions", list)])])]), ("versions", .integer 3)]
    Toml.ofText (manifest versions) = .ok (manifestDocument versions) ∧
    AlikeAlong path (manifestDocument versions) other ∧
    ofText "Cargo.toml" (manifest versions) = .ok versions ∧
    ofDocument "Cargo.toml" other = .ok versions := by
  intro versions list other
  obtain ⟨listed, -, elsewhere, reading⟩ :=
    listed_iff_texts_at_path "Cargo.toml" (manifestDocument versions)
  have read : Toml.ofText (manifest versions) = .ok (manifestDocument versions) :=
    ofText_manifest (by decide +kernel)
  have alike : AlikeAlong path (manifestDocument versions) other := by
    exact .below rfl rfl (.below rfl rfl (.below rfl rfl (.below rfl rfl (.here list))))
  have there : ofDocument "Cargo.toml" (manifestDocument versions) = .ok versions :=
    (listed versions).mpr rfl
  exact ⟨read, alike, (reading _ read).trans there, (elsewhere other alike).trans there⟩

example : ofDocument "Cargo.toml" (.table [("package", .table [("metadata",
    .table [("migration-tests", .table [("versions", .array [.text "0.2.0", .integer 3])])])])]) =
    .error (.config "Cargo.toml"
      "package.metadata.migration-tests.versions[1] is not a string: 3") := by
  decide +kernel

end Versions

end CatalogMigration
