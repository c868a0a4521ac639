import CatalogMigration.Proofs.Url.Domain.Names
import CatalogMigration.Proofs.Url.Encoded
import CatalogMigration.Proofs.Url.Numeric
import CatalogMigration.Proofs.Url.Path

namespace CatalogMigration

open Text

namespace Url

/-- Segments as they stand in a path. -/
structure CanonicalSegment (part : List Char) : Prop where
  clean : Clean .path part
  whole : ∀ c ∈ part, isSlash true c = false
  notParent : isParent part = false
  notCurrent : isCurrent part = false

def CanonicalParts (parts : List (List Char)) : Prop :=
  parts ≠ [] ∧ ∀ part ∈ parts, CanonicalSegment part

end Url

open Url

inductive UrlHost.Canonical : UrlHost → Prop
  | domain {name : List Char} (plain : ∀ c ∈ name, OfName c) (nonempty : name ≠ [])
      (named : endsInNumber name = false) : Canonical (.domain name)
  | fourBytes {n : Nat} (bound : n < 2 ^ 32) : Canonical (.fourBytes n)
  | eightPieces {ns : List Nat} (length : ns.length = 8) (bound : ∀ n ∈ ns, n < 65536) :
    Canonical (.eightPieces ns)

namespace Url

structure Userinfo.Canonical (i : Userinfo) : Prop where
  username : Clean .userinfo i.username
  password : ∀ p, i.password = some p → p ≠ [] ∧ Clean .userinfo p

structure Canonical (u : Url) : Prop where
  userinfo : Userinfo.Canonical ⟨u.username, u.password⟩
  host : ∃ h, u.host = some h ∧ h.Canonical
  port : ∀ p, u.port = some p → p ≤ 65535 ∧ some p ≠ ownPort? u.scheme
  path : ∃ parts, u.path = .segments parts ∧ CanonicalParts parts
  query : ∀ q, u.query = some q → Clean .specialQuery q
  fragment : ∀ f, u.fragment = some f → Clean .fragment f

section Scheme

variable {scheme : List Char} (own : (ownPort? scheme).isSome = true)

include own

theorem isSpecialScheme_of_own : isSpecialScheme scheme = true := by
  rw [isSpecialScheme, own, Bool.true_or]

theorem mem_schemes_of_own :
    scheme ∈ ["http", "ws", "https", "wss", "ftp"].map String.toList := by
  unfold ownPort? at own
  split at own
  case h_6 => cases own
  all_goals
    next name =>
    rw [← String.toList_ofList (l := scheme), name]
    simp

theorem isFileScheme_of_own : isFileScheme scheme = false := by
  have all : (["http", "ws", "https", "wss", "ftp"].map String.toList).all
      (!isFileScheme ·) = true := by decide +kernel
  simpa using List.all_eq_true.mp all scheme (mem_schemes_of_own own)

end Scheme

section Segments

theorem canonical_nil : CanonicalSegment [] where
  clean := List.forall_mem_nil _
  whole := List.forall_mem_nil _
  notParent := by decide +kernel
  notCurrent := by decide +kernel

theorem Simple.canonical {part : List Char} (simple : Simple part) : CanonicalSegment part where
  clean c member := by
    have kept := isEncoded_of_simple (simple c member) "http".toList
    have wider : segmentSet "http".toList = EncodeSet.path ++ ['/', '%', '\\'] := by decide
    simp only [isEncoded, wider, List.contains_append, Bool.or_eq_false_iff] at kept ⊢
    exact ⟨kept.1, kept.2.1⟩
  whole c member := by
    refine Bool.eq_false_iff.mpr fun slash => ?_
    have sign : c = '/' ∨ c = '\\' := by simpa [isSlash] using slash
    rcases sign with rfl | rfl <;> exact absurd (simple _ member) (by decide)
  notParent := by
    refine Bool.eq_false_iff.mpr fun parent => simple.plain.2.1 ?_
    rw [← simple.encode_eq "http".toList] at parent
    exact (isParent_encode (percent_mem_segmentSet _) (dot_notMem_segmentSet _) part).mp parent
  notCurrent := by
    refine Bool.eq_false_iff.mpr fun current => simple.plain.1 ?_
    rw [← simple.encode_eq "http".toList] at current
    exact (isCurrent_encode (percent_mem_segmentSet _) (dot_notMem_segmentSet _) part).mp current

theorem Simple.decode_eq {part : List Char} (simple : Simple part) : decode part = utf8 part :=
  decode_of_plain fun member => absurd (simple '%' member) (by decide)

theorem encode_whole {set : EncodeSet} {part : List Char}
    (whole : ∀ c ∈ part, isSlash true c = false) :
    ∀ c ∈ encode set part, isSlash true c = false := by
  intro c member
  rcases mem_encode member with rfl | ⟨d, digit, rfl⟩ | ⟨here, -⟩
  · rfl
  · have all : ∀ e : Fin 16, isSlash true (Numeral.upperDigitChar e) = false := by decide
    exact all ⟨d, digit⟩
  · exact whole c here

theorem place_canonical {parts : List (List Char)} {part : List Char} (last : Bool)
    (canonical : ∀ p ∈ parts, CanonicalSegment p) (whole : ∀ c ∈ part, isSlash true c = false) :
    (∀ p ∈ place false .path parts last part, CanonicalSegment p) ∧
      (last = true → place false .path parts last part ≠ []) := by
  have closing : ∀ p ∈ (if last then [[]] else [] : List (List Char)), CanonicalSegment p := by
    cases last
    · simp
    · simpa using canonical_nil
  have some_part (front : List (List Char)) : last = true →
      front ++ (if last then [[]] else []) ≠ [] := by
    rintro rfl
    simp
  rw [place]
  split
  · rw [shortened_false]
    exact ⟨List.forall_mem_append.mpr
      ⟨fun p member => canonical p (List.mem_of_mem_dropLast member), closing⟩, some_part _⟩
  next notParent =>
  split
  · exact ⟨List.forall_mem_append.mpr ⟨canonical, closing⟩, some_part _⟩
  next notCurrent =>
  rw [Bool.false_and, Bool.false_and, if_neg Bool.false_ne_true]
  have written : CanonicalSegment (encode .path part) :=
    ⟨clean_encode (by decide) part, encode_whole whole, Bool.eq_false_iff.mpr notParent,
      Bool.eq_false_iff.mpr notCurrent⟩
  exact ⟨List.forall_mem_append.mpr ⟨canonical, List.forall_mem_singleton.mpr written⟩,
    fun _ => by simp⟩

theorem placeAll_canonical {raw parts : List (List Char)} (some_part : raw ≠ [])
    (canonical : ∀ p ∈ parts, CanonicalSegment p)
    (whole : ∀ part ∈ raw, ∀ c ∈ part, isSlash true c = false) :
    CanonicalParts (placeAll false .path parts raw) := by
  induction raw generalizing parts with
  | nil => exact absurd rfl some_part
  | cons part rest ih =>
    obtain ⟨here, later⟩ := List.forall_mem_cons.mp whole
    cases rest with
    | nil =>
      have placed := place_canonical true canonical here
      exact ⟨placed.2 rfl, placed.1⟩
    | cons next rest =>
      exact ih (List.cons_ne_nil _ _) (place_canonical false canonical here).1 later

variable {scheme : List Char} (own : (ownPort? scheme).isSome = true)

include own

theorem pathSegments_canonical (cs : List Char) : CanonicalParts (pathSegments scheme cs) := by
  rw [pathSegments, isSpecialScheme_of_own own, isFileScheme_of_own own, if_pos rfl,
    if_neg Bool.false_ne_true]
  refine placeAll_canonical ?_ (List.forall_mem_nil _) ?_
  · rw [splitOn_eq]
    exact List.splitOn_ne_nil _ _
  intro part piece c member
  obtain ⟨here, other⟩ := mem_of_mem_splitOn piece member
  obtain ⟨d, -, rfl⟩ := List.mem_map.mp here
  split at other
  · exact absurd rfl other
  · next plain =>
    rw [if_neg plain]
    simp [isSlash, other, plain]

theorem pathAfterAuthority_canonical (cs : List Char) :
    CanonicalParts (pathAfterAuthority scheme cs) := by
  unfold pathAfterAuthority
  split
  · rw [isSpecialScheme_of_own own, if_pos rfl]
    exact ⟨List.cons_ne_nil _ _, List.forall_mem_singleton.mpr canonical_nil⟩
  · split <;> exact pathSegments_canonical own _

end Segments

theorem Userinfo.canonical_ofText (cs : List Char) : (Userinfo.ofText cs).Canonical := by
  rw [Userinfo.ofText]
  dsimp only
  refine ⟨clean_encode (by decide) _, fun p some_password => ?_⟩
  dsimp only at some_password
  split at some_password
  · cases some_password
  · cases some_password
  · next _ password several _ =>
    cases some_password
    refine ⟨encode_ne_nil fun none_left => ?_, clean_encode (by decide) _⟩
    exact several none_left

theorem userinfo?_canonical {cs rest : List Char} {i : Userinfo}
    (read : userinfo? true cs = .ok (i, rest)) : i.Canonical := by
  have empty : Userinfo.Canonical ⟨[], none⟩ := ⟨List.forall_mem_nil _, nofun⟩
  rw [userinfo?] at read
  dsimp only at read
  split at read
  · cases read
    exact empty
  · split at read
    · cases read
      exact empty
    · cases read
  · cases read
    exact Userinfo.canonical_ofText _

theorem bracketed?_canonical {cs : List Char} {h : UrlHost} (read : bracketed? cs = .ok h) :
    h.Canonical := by
  unfold bracketed? at read
  split at read
  · split at read
    · next ns pieces =>
      cases read
      obtain ⟨length, bound⟩ := eightPieces?_bounds pieces
      exact .eightPieces length bound
    · cases read
  · cases read

theorem specialHost?_canonical {cs : List Char} {h : UrlHost} (read : specialHost? cs = .ok h) :
    h.Canonical := by
  unfold specialHost? at read
  split at read
  · exact bracketed?_canonical read
  split at read
  · cases read
  · cases read
  · next name nonempty found =>
    split at read
    · split at read
      · next n bytes =>
        cases read
        exact .fourBytes (fourBytes?_lt bytes)
      · cases read
    · next named =>
      cases read
      obtain ⟨text, -, ascii⟩ := Option.bind_eq_some_iff.mp found
      exact .domain (ofName_of_asciiDomain? ascii) (fun none_left => nonempty (by rw [none_left]))
        (Bool.eq_false_iff.mpr named)

theorem port?_canonical {scheme cs rest : List Char} {port : Option Nat}
    (read : port? scheme cs = .ok (port, rest)) :
    ∀ p, port = some p → p ≤ 65535 ∧ some p ≠ ownPort? scheme := by
  rintro p rfl
  unfold port? at read
  split at read
  · dsimp only at read
    split at read
    · cases read
    split at read
    · cases read
    · next n digits =>
      split at read
      · cases read
      next small =>
      split at read
      · cases read
      · next other =>
        cases read
        exact ⟨Nat.not_lt.mp small, other⟩
  · cases read

section Authority

variable {scheme : List Char}

def assembleRest (scheme : List Char) (a : Authority) (rest : List Char) : Url :=
  let (path, query, fragment) := pathQueryFragment rest
  assemble scheme a (.segments (pathAfterAuthority scheme path)) query fragment

theorem withAuthority_eq (special : isSpecialScheme scheme = true) (cs : List Char) :
    withAuthority scheme cs = (userinfo? true cs).bind fun (info, rest) =>
      let (text, rest) := hostText true false rest
      if text = [] then .error .emptyHost
      else (specialHost? text).bind fun host => (port? scheme rest).map fun (port, rest) =>
        assembleRest scheme ⟨info, some host, port⟩ rest := by
  rw [withAuthority, special]
  cases userinfo? true cs with
  | error e => rfl
  | ok read =>
    obtain ⟨info, rest⟩ := read
    simp only [bind, Except.bind]
    generalize hostText true false rest = found
    obtain ⟨text, rest'⟩ := found
    cases text with
    | nil => rfl
    | cons c text =>
      cases specialHost? (c :: text) with
      | error e => rfl
      | ok h => cases port? scheme rest' <;> rfl

theorem assembleRest_canonical (own : (ownPort? scheme).isSome = true) {a : Authority}
    {host : UrlHost} (userinfo : a.userinfo.Canonical) (some_host : a.host = some host)
    (written : host.Canonical)
    (port : ∀ p, a.port = some p → p ≤ 65535 ∧ some p ≠ ownPort? scheme) (rest : List Char) :
    (assembleRest scheme a rest).Canonical := by
  rw [assembleRest]
  dsimp only
  refine ⟨userinfo, ⟨host, some_host, written⟩, port,
    ⟨_, rfl, pathAfterAuthority_canonical own _⟩, fun q some_query => ?_,
    fun f some_fragment => ?_⟩
  · rw [assemble, isSpecialScheme_of_own own] at some_query
    obtain ⟨text, -, rfl⟩ := Option.map_eq_some_iff.mp some_query
    exact clean_encode (by decide) text
  · obtain ⟨text, -, rfl⟩ := Option.map_eq_some_iff.mp some_fragment
    exact clean_encode (by decide) text

theorem withAuthority_canonical (own : (ownPort? scheme).isSome = true) {cs : List Char} {u : Url}
    (read : withAuthority scheme cs = .ok u) : u.Canonical := by
  rw [withAuthority_eq (isSpecialScheme_of_own own)] at read
  cases info : userinfo? true cs with
  | error e => rw [info] at read; cases read
  | ok found =>
    obtain ⟨i, rest⟩ := found
    rw [info] at read
    dsimp only [Except.bind] at read
    split at read
    · cases read
    cases host : specialHost? (hostText true false rest).1 with
    | error e => rw [host] at read; cases read
    | ok h =>
      rw [host] at read
      cases port : port? scheme (hostText true false rest).2 with
      | error e => rw [port] at read; cases read
      | ok found =>
        rw [port] at read
        cases read
        exact assembleRest_canonical own (userinfo?_canonical info) rfl
          (specialHost?_canonical host) (port?_canonical port) _

end Authority

theorem canonical_of_ofText {text : String} {u : Url} (read : ofText text = .ok u)
    (own : (ownPort? u.scheme).isSome = true) : u.Canonical := by
  have special := isSpecialScheme_of_own own
  unfold ofText Url.read at read
  dsimp only at read
  split at read
  · cases read
  next scheme rest _ =>
  split at read
  · next file =>
    rw [← (fileUrl_ok read).1, isFileScheme_of_own own] at file
    cases file
  split at read
  · rw [(withAuthority_ok read).1] at own
    exact withAuthority_canonical own read
  next other =>
  split at read
  · exact absurd ((withAuthority_ok read).1 ▸ special) other
  · cases read
    exact absurd special other
  · cases read
    exact absurd special other

end Url

end CatalogMigration
