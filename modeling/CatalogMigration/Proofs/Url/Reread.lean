import CatalogMigration.Proofs.Url.Authority

namespace CatalogMigration.Url

open Numeral Text

theorem written_eq {u : Url} {h : UrlHost} (host : u.host = some h) :
    u.written = u.scheme ++ ':' :: '/' :: '/' ::
      (u.credentials ++ (h.written ++ (marked ':' (u.port.map decimal) ++
        (u.path.written ++ (marked '?' u.query ++ marked '#' u.fragment))))) := by
  have unguarded : u.guarded = [] := by rw [guarded, host]
  rw [written, withoutFragment, unguarded, authority, host]
  cases u.port <;> cases u.query <;> cases u.fragment <;> simp [marked]

section Path

theorem written_segments {parts : List (List Char)} (some_part : parts ≠ []) :
    (UrlPath.segments parts).written = '/' :: joinedWith ['/'] parts := by
  rw [UrlPath.written]
  induction parts with
  | nil => exact absurd rfl some_part
  | cons part rest ih =>
    cases rest with
    | nil => simp [joinedWith]
    | cons next rest =>
      have joined : joinedWith ['/'] (part :: next :: rest) =
          part ++ ['/'] ++ joinedWith ['/'] (next :: rest) := rfl
      rw [List.flatMap_cons, ih (List.cons_ne_nil _ _), joined]
      simp

theorem place_written {parts : List (List Char)} {part : List Char} (last : Bool)
    (canonical : CanonicalSegment part) : place false .path parts last part = parts ++ [part] := by
  rw [place, canonical.clean.encode_eq, canonical.notParent, canonical.notCurrent]
  rfl

theorem placeAll_written {raw : List (List Char)} (canonical : ∀ part ∈ raw, CanonicalSegment part)
    (parts : List (List Char)) : placeAll false .path parts raw = parts ++ raw := by
  induction raw generalizing parts with
  | nil => exact (List.append_nil parts).symm
  | cons part rest ih =>
    obtain ⟨here, later⟩ := List.forall_mem_cons.mp canonical
    cases rest with
    | nil => exact place_written true here
    | cons next rest =>
      rw [placeAll, place_written false here, ih later, List.append_assoc, List.singleton_append]
      exact List.cons_ne_nil _ _

variable {scheme : List Char} (own : (ownPort? scheme).isSome = true)
  {parts : List (List Char)} (canonical : CanonicalParts parts)

include own canonical

theorem pathAfterAuthority_written :
    pathAfterAuthority scheme (UrlPath.segments parts).written = parts := by
  have plain : ∀ c ∈ joinedWith ['/'] parts, c ≠ '\\' := by
    intro c member
    rcases mem_joinedWith member with glue | ⟨part, piece, member⟩
    · rw [List.mem_singleton.mp glue]
      decide
    · rintro rfl
      cases (canonical.2 part piece).whole _ member
  have mapped : (joinedWith ['/'] parts).map (fun c => if c = '\\' then '/' else c) =
      joinedWith ['/'] parts :=
    (List.map_congr_left fun c member => if_neg (plain c member)).trans (List.map_id' _)
  have pieces : splitOn '/' (joinedWith ['/'] parts) = parts := by
    refine splitOn_joinedWith canonical.1 fun part piece member => ?_
    cases (canonical.2 part piece).whole _ member
  have slash : isSlash true '/' = true := rfl
  rw [written_segments canonical.1, pathAfterAuthority, isSpecialScheme_of_own own,
    if_pos slash, pathSegments, isSpecialScheme_of_own own, isFileScheme_of_own own, if_pos rfl,
    mapped, pieces, placeAll_written canonical.2, List.nil_append]
  rfl

end Path

theorem pathQueryFragment_written {path : List Char} {query fragment : Option (List Char)}
    (pathPlain : ∀ c ∈ path, c ≠ '?' ∧ c ≠ '#') (queryPlain : ∀ q, query = some q → '#' ∉ q) :
    pathQueryFragment (path ++ (marked '?' query ++ marked '#' fragment)) =
      (path, query, fragment) := by
  have front : ∀ c ∈ path ++ marked '?' query, decide (c ≠ '#') = true := by
    refine List.forall_mem_append.mpr ⟨fun c member => decide_eq_true (pathPlain c member).2, ?_⟩
    cases query with
    | none => exact List.forall_mem_nil _
    | some q =>
      refine List.forall_mem_cons.mpr ⟨rfl, fun c member => decide_eq_true ?_⟩
      rintro rfl
      exact queryPlain q rfl member
  have endsFragment : ∀ c, (marked '#' fragment).head? = some c → decide (c ≠ '#') = false := by
    cases fragment with
    | none => nofun
    | some f => rintro c ⟨⟩; rfl
  have endsQuery : ∀ c, (marked '?' query).head? = some c → decide (c ≠ '?') = false := by
    cases query with
    | none => nofun
    | some q => rintro c ⟨⟩; rfl
  rw [pathQueryFragment, ← List.append_assoc, span_append front endsFragment]
  dsimp only
  rw [span_append (fun c member => decide_eq_true (pathPlain c member).1) endsQuery]
  cases query <;> cases fragment <;> rfl

theorem scheme?_written {scheme : List Char} (own : (ownPort? scheme).isSome = true)
    (rest : List Char) : scheme? (scheme ++ ':' :: rest) = some (scheme, rest) := by
  have all : (["http", "ws", "https", "wss", "ftp"].map String.toList).all (fun s =>
      s.all (fun c => c.isAlphanum || c == '+' || c == '-' || c == '.') &&
        s.map Char.toLower == s && s.head?.any Char.isAlpha) = true := by decide +kernel
  have here := List.all_eq_true.mp all scheme (mem_schemes_of_own own)
  simp only [Bool.and_eq_true, beq_iff_eq] at here
  obtain ⟨⟨inside, lower⟩, letter⟩ := here
  have run := @span_append (fun c => c.isAlphanum || c == '+' || c == '-' || c == '.') scheme
    (':' :: rest) (List.all_eq_true.mp inside) (by rintro c ⟨⟩; rfl)
  cases scheme with
  | nil => cases letter
  | cons c cs =>
    rw [List.cons_append] at run ⊢
    rw [scheme?, if_pos (by simpa using letter), run]
    dsimp only
    rw [lower]
    rfl

theorem map_encode_of_clean {set : EncodeSet} {part : Option (List Char)}
    (clean : ∀ cs, part = some cs → Clean set cs) : part.map (encode set) = part := by
  cases part with
  | none => rfl
  | some cs => rw [Option.map_some, (clean cs rfl).encode_eq]

theorem assembleRest_host (scheme : List Char) (a : Authority) (host : UrlHost) (rest : List Char) :
    assembleRest scheme { a with host := some host } rest =
      { assembleRest scheme a rest with host := some host } := rfl

section Whole

variable {u : Url} {h : UrlHost} (canonical : u.Canonical)
  (own : (ownPort? u.scheme).isSome = true) (host : u.host = some h)

include canonical own

theorem assembleRest_written :
    assembleRest u.scheme ⟨⟨u.username, u.password⟩, u.host, u.port⟩
      (u.path.written ++ (marked '?' u.query ++ marked '#' u.fragment)) = u := by
  obtain ⟨parts, path, some_part, segments⟩ := canonical.path
  have pathPlain : ∀ c ∈ u.path.written, c ≠ '?' ∧ c ≠ '#' := by
    rw [path, UrlPath.written]
    intro c member
    obtain ⟨part, piece, member⟩ := List.mem_flatMap.mp member
    rcases List.mem_cons.mp member with rfl | member
    · decide
    · have clean := (segments part piece).clean
      exact ⟨clean.ne (by decide) member, clean.ne (by decide) member⟩
  have queryPlain : ∀ q, u.query = some q → '#' ∉ q := fun q some_query member =>
    (canonical.query q some_query).ne (by decide) member rfl
  have query := map_encode_of_clean canonical.query
  have fragment := map_encode_of_clean canonical.fragment
  rw [assembleRest, pathQueryFragment_written pathPlain queryPlain]
  dsimp only
  rw [path, pathAfterAuthority_written own ⟨some_part, segments⟩, assemble,
    isSpecialScheme_of_own own, if_pos rfl, query, fragment, ← path]

include host

theorem withAuthority_written :
    withAuthority u.scheme (u.credentials ++ (h.written ++ (marked ':' (u.port.map decimal) ++
      (u.path.written ++ (marked '?' u.query ++ marked '#' u.fragment))))) =
      (specialHost? h.written).map fun again => { u with host := some again } := by
  obtain ⟨_, same, written⟩ := canonical.host
  cases host.symm.trans same
  obtain ⟨parts, path, some_part, -⟩ := canonical.path
  have back := assembleRest_written canonical own
  generalize tail : u.path.written ++ (marked '?' u.query ++ marked '#' u.fragment) = rest at back ⊢
  have ends : ∀ c, rest.head? = some c → endsAuthority true c = true := by
    rw [← tail, path, written_segments some_part]
    rintro c ⟨⟩
    rfl
  -- A host ends where its port or the path starts, the path is where the authority ends.
  have endsHost : ∀ c, (marked ':' (u.port.map decimal) ++ rest).head? = some c →
      endsAuthority true c = true ∨ c = ':' := by
    cases u.port with
    | none => exact fun c head => .inl (ends c head)
    | some p => rintro c ⟨⟩; exact .inr rfl
  have front : ∀ c ∈ h.written ++ marked ':' (u.port.map decimal),
      endsAuthority true c = false ∧ c ≠ '@' :=
    List.forall_mem_append.mpr ⟨fun c member => (mem_written written member).2,
      fun c member => (mem_port member).2⟩
  have credentials := userinfo?_written canonical.userinfo
    (List.append_ne_nil_of_left_ne_nil (written_ne_nil written) _)
    (fun member => (front _ member).2 rfl) (fun c member => (front c member).1) ends
  rw [List.append_assoc] at credentials
  rw [withAuthority_eq (isSpecialScheme_of_own own), credentials]
  dsimp only [Except.bind]
  rw [hostText_written written endsHost]
  dsimp only
  rw [if_neg (written_ne_nil written), port?_written canonical.port ends]
  cases specialHost? h.written with
  | error e => rfl
  | ok again =>
    show Except.ok (assembleRest u.scheme
      { (⟨⟨u.username, u.password⟩, u.host, u.port⟩ : Authority) with host := some again } rest) = _
    rw [assembleRest_host, back]
    rfl

theorem visible_of_mem_written {c : Char} (member : c ∈ u.written) : Visible c := by
  obtain ⟨_, same, written⟩ := canonical.host
  cases host.symm.trans same
  obtain ⟨parts, path, -, segments⟩ := canonical.path
  have letters : ∀ c ∈ u.scheme, Visible c := by
    have all : (["http", "ws", "https", "wss", "ftp"].map String.toList).all
        (·.all (Visible ·)) = true := by decide +kernel
    simpa using List.all_eq_true.mp all u.scheme (mem_schemes_of_own own)
  have part {mark : Char} {o : Option (List Char)} (visible : Visible mark)
      (each : ∀ cs, o = some cs → ∀ c ∈ cs, Visible c) : ∀ c ∈ marked mark o, Visible c := by
    cases o with
    | none => exact List.forall_mem_nil _
    | some cs => exact List.forall_mem_cons.mpr ⟨visible, each cs rfl⟩
  have credentials : ∀ c ∈ u.credentials, Visible c := by
    rcases credentials_eq u with ⟨none_given, -, -⟩ | given
    · rw [none_given]
      exact List.forall_mem_nil _
    · rw [given]
      refine List.forall_mem_append.mpr ⟨List.forall_mem_append.mpr
        ⟨canonical.userinfo.username.visible (by decide), part (by decide) ?_⟩,
        List.forall_mem_singleton.mpr (by decide)⟩
      exact fun p password => (canonical.userinfo.password p password).2.visible (by decide)
  have below : ∀ c ∈ u.path.written, Visible c := by
    rw [path, UrlPath.written]
    intro c member
    obtain ⟨segment, piece, member⟩ := List.mem_flatMap.mp member
    rcases List.mem_cons.mp member with rfl | member
    · decide
    · exact (segments segment piece).clean.visible (by decide) c member
  have query := @part '?' u.query (by decide) fun q some_query =>
    (canonical.query q some_query).visible (by decide)
  have fragment := @part '#' u.fragment (by decide) fun f some_fragment =>
    (canonical.fragment f some_fragment).visible (by decide)
  rw [written_eq host] at member
  simp only [List.mem_append, List.mem_cons] at member
  rcases member with member | rfl | rfl | rfl | member | member | member | member | member | member
  · exact letters c member
  · decide
  · decide
  · decide
  · exact credentials c member
  · exact (mem_written written member).1
  · exact (mem_port member).1
  · exact below c member
  · exact query c member
  · exact fragment c member

theorem read_written :
    read u.written = (specialHost? h.written).map fun again => { u with host := some again } := by
  have visible := fun c member => visible_of_mem_written canonical own host (c := c) member
  have front : ∀ (cs : List Char) (c : Char), (u.credentials ++ (h.written ++ cs)).head? = some c →
      isSlash true c = false := by
    obtain ⟨_, same, written⟩ := canonical.host
    cases host.symm.trans same
    intro cs c head
    have inside : endsAuthority true c = false := by
      rw [← List.append_assoc, List.head?_append_of_ne_nil _
        (List.append_ne_nil_of_right_ne_nil _ (written_ne_nil written))] at head
      rcases List.mem_append.mp (List.mem_of_mem_head? head) with member | member
      · exact inside_of_credentials canonical.userinfo c member
      · exact (mem_written written member).2.1
    simp only [endsAuthority, Bool.or_eq_false_iff] at inside
    exact inside.1.1
  have behind {cs : List Char} (other : ∀ c, cs.head? = some c → isSlash true c = false) :
      ('/' :: '/' :: cs).dropWhile (isSlash true) = cs := by
    cases cs with
    | nil => rfl
    | cons c cs =>
      rw [List.dropWhile_cons_of_pos rfl, List.dropWhile_cons_of_pos rfl,
        List.dropWhile_cons_of_neg (by simp [other c rfl])]
  rw [read, trimmedEnds_of_visible visible, not_ignored_of_visible visible, written_eq host,
    scheme?_written own]
  dsimp only
  rw [isFileScheme_of_own own, isSpecialScheme_of_own own, if_neg Bool.false_ne_true, if_pos rfl,
    behind (front _), withAuthority_written canonical own host]

end Whole

/-- An address that is written is read as itself, unless its host is a name that is refused. -/
theorem ofText_display {u : Url} (canonical : u.Canonical)
    (own : (ownPort? u.scheme).isSome = true) :
    ofText u.display = .ok u ∨ ofText u.display = .error .invalidInternationalName ∧
      ∃ name, u.host = some (.domain name) ∧ asciiDomain? name = none := by
  obtain ⟨h, host, written⟩ := canonical.host
  rw [ofText, display, String.toList_ofList, read_written canonical own host]
  rcases specialHost?_written written with same | ⟨refused, name, rfl, unread⟩
  · left
    rw [same, Except.map, ← host]
  · right
    rw [refused]
    exact ⟨rfl, name, host, unread⟩

end CatalogMigration.Url
