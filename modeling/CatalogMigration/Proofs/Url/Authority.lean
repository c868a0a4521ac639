import CatalogMigration.Proofs.Text.Characters
import CatalogMigration.Proofs.Url.Canonical

namespace CatalogMigration.Url

open Numeral Text

def marked (mark : Char) : Option (List Char) → List Char
  | none => []
  | some cs => mark :: cs

section Userinfo

theorem splitLast?_append {sep : Char} {back : List Char} (absent : sep ∉ back)
    (front : List Char) : splitLast? sep (front ++ sep :: back) = some (front, back) := by
  have other : ∀ c ∈ back.reverse, decide (c ≠ sep) = true := by
    rintro c member
    refine decide_eq_true fun same => ?_
    exact absent (same ▸ List.mem_reverse.mp member)
  rw [splitLast?, if_pos (by simp)]
  dsimp only
  rw [List.reverse_append, List.reverse_cons, List.append_assoc, List.dropWhile_append_of_pos other,
    List.takeWhile_append_of_pos other]
  simp

theorem Userinfo.ofText_written {i : Userinfo} (canonical : i.Canonical) :
    Userinfo.ofText (i.username ++ marked ':' i.password) = i := by
  have inside : ∀ c ∈ i.username, decide (c ≠ ':') = true := fun c member =>
    decide_eq_true (canonical.username.ne (by decide) member)
  have ends : ∀ c, (marked ':' i.password).head? = some c → decide (c ≠ ':') = false := by
    cases i.password with
    | none => nofun
    | some p => rintro c ⟨⟩; rfl
  rw [Userinfo.ofText, span_append inside ends]
  dsimp only
  rw [canonical.username.encode_eq]
  obtain ⟨username, password⟩ := i
  cases password with
  | none => rfl
  | some p =>
    obtain ⟨nonempty, clean⟩ := canonical.password p rfl
    cases p with
    | nil => exact absurd rfl nonempty
    | cons c rest =>
      show Userinfo.mk _ (some (encode .userinfo (c :: rest))) = _
      rw [clean.encode_eq]

theorem endsAuthority_eq_false {c : Char} (slash : c ≠ '/') (back : c ≠ '\\') (question : c ≠ '?')
    (number : c ≠ '#') : endsAuthority true c = false := by
  simp [endsAuthority, isSlash, slash, back, question, number]

theorem credentials_eq (u : Url) :
    u.credentials = [] ∧ u.username = [] ∧ u.password = none ∨
      u.credentials = u.username ++ marked ':' u.password ++ ['@'] := by
  rw [credentials]
  cases u.password with
  | none =>
    cases u.username with
    | nil => exact .inl ⟨rfl, rfl, rfl⟩
    | cons c name => exact .inr (by rw [marked, List.append_nil])
  | some p => cases u.username <;> exact .inr rfl

theorem inside_of_userinfo {cs : List Char} (clean : Clean .userinfo cs) :
    ∀ c ∈ cs, endsAuthority true c = false := fun c member =>
  endsAuthority_eq_false (clean.ne (by decide) member) (clean.ne (by decide) member)
    (clean.ne (by decide) member) (clean.ne (by decide) member)

theorem inside_of_credentials {u : Url} (canonical : Userinfo.Canonical ⟨u.username, u.password⟩) :
    ∀ c ∈ u.credentials, endsAuthority true c = false := by
  rcases credentials_eq u with ⟨none_given, -, -⟩ | given
  · rw [none_given]
    exact List.forall_mem_nil _
  rw [given]
  refine List.forall_mem_append.mpr ⟨List.forall_mem_append.mpr
    ⟨inside_of_userinfo canonical.username, ?_⟩, List.forall_mem_singleton.mpr rfl⟩
  cases password : u.password with
  | none => exact List.forall_mem_nil _
  | some p =>
    exact List.forall_mem_cons.mpr ⟨rfl, inside_of_userinfo (canonical.password p password).2⟩

theorem userinfo?_written {u : Url} (canonical : Userinfo.Canonical ⟨u.username, u.password⟩)
    {front rest : List Char} (nonempty : front ≠ []) (noAt : '@' ∉ front)
    (inside : ∀ c ∈ front, endsAuthority true c = false)
    (ends : ∀ c, rest.head? = some c → endsAuthority true c = true) :
    userinfo? true (u.credentials ++ (front ++ rest)) =
      .ok (⟨u.username, u.password⟩, front ++ rest) := by
  have whole : (u.credentials ++ (front ++ rest)).span (!endsAuthority true ·) =
      (u.credentials ++ front, rest) := by
    rw [← List.append_assoc]
    refine span_append (List.forall_mem_append.mpr ⟨fun c member => ?_, fun c member => ?_⟩) ?_
    · rw [inside_of_credentials canonical c member, Bool.not_false]
    · rw [inside c member, Bool.not_false]
    · intro c head
      rw [ends c head, Bool.not_true]
  rw [userinfo?, whole]
  dsimp only
  rcases credentials_eq u with ⟨none_given, name, secret⟩ | given
  · have absent : splitLast? '@' front = none := if_neg (by simpa using noAt)
    rw [none_given, name, secret, List.nil_append, absent]
    rfl
  · rw [given, List.append_assoc, List.singleton_append, splitLast?_append noAt]
    split
    · next none_found => cases none_found
    · next both => exact absurd (Prod.mk.inj (Option.some.inj both)).2 nonempty
    · next found =>
      cases found
      rw [Userinfo.ofText_written canonical]

end Userinfo

section Host

theorem hostText_append {inside : Bool} {text : List Char} (rest : List Char)
    (plain : ∀ c ∈ text, endsAuthority true c = false ∧ c ≠ '[' ∧ c ≠ ']' ∧
      (c = ':' → inside = true)) :
    hostText true inside (text ++ rest) =
      (text ++ (hostText true inside rest).1, (hostText true inside rest).2) := by
  induction text with
  | nil => rfl
  | cons c text ih =>
    obtain ⟨⟨within, opening, closing, colon⟩, later⟩ := List.forall_mem_cons.mp plain
    have stays : (endsAuthority true c || c == ':' && !inside) = false := by
      rw [within, Bool.false_or, Bool.and_eq_false_iff]
      by_cases same : c = ':'
      · exact .inr (by rw [colon same, Bool.not_true])
      · exact .inl (by simp [same])
    rw [List.cons_append, hostText, stays, if_neg Bool.false_ne_true]
    simp [opening, closing, ih later]

theorem hostText_stop {rest : List Char}
    (ends : ∀ c, rest.head? = some c → endsAuthority true c = true ∨ c = ':') :
    hostText true false rest = ([], rest) := by
  cases rest with
  | nil => rfl
  | cons c rest =>
    rw [hostText, if_pos]
    rcases ends c rfl with ending | rfl
    · rw [ending, Bool.true_or]
    · rfl

theorem inside_of_name {c : Char} (plain : OfName c) : endsAuthority true c = false :=
  endsAuthority_eq_false (plain.ne (by decide)) (plain.ne (by decide)) (plain.ne (by decide))
    (plain.ne (by decide))

theorem hostText_name {name rest : List Char} (plain : ∀ c ∈ name, OfName c)
    (ends : ∀ c, rest.head? = some c → endsAuthority true c = true ∨ c = ':') :
    hostText true false (name ++ rest) = (name, rest) := by
  rw [hostText_append rest fun c member => ?_, hostText_stop ends, List.append_nil]
  have of := plain c member
  exact ⟨inside_of_name of, of.ne (by decide), of.ne (by decide),
    fun colon => absurd colon (of.ne (by decide))⟩

theorem inside_of_pieces {c : Char} (piece : c = ':' ∨ isHexDigit c = true) :
    endsAuthority true c = false ∧ c ≠ '[' ∧ c ≠ ']' ∧ c ≠ '@' := by
  rcases piece with rfl | digit
  · decide
  · have other {d : Char} (unlike : isHexDigit d = false) : c ≠ d := by
      rintro rfl
      cases unlike.symm.trans digit
    exact ⟨endsAuthority_eq_false (other (by decide)) (other (by decide)) (other (by decide))
      (other (by decide)), other (by decide), other (by decide), other (by decide)⟩

theorem hostText_written {h : UrlHost} (canonical : h.Canonical) {rest : List Char}
    (ends : ∀ c, rest.head? = some c → endsAuthority true c = true ∨ c = ':') :
    hostText true false (h.written ++ rest) = (h.written, rest) := by
  cases canonical with
  | domain plain => exact hostText_name plain ends
  | fourBytes => exact hostText_name (fun c member => ofName_of_mem_writeFourBytes member) ends
  | @eightPieces ns =>
    have closing : hostText true true (']' :: rest) = ([']'], rest) := by
      rw [hostText, if_neg (by decide)]
      simp [hostText_stop ends]
    have pieces : hostText true true (writeEightPieces ns ++ ']' :: rest) =
        (writeEightPieces ns ++ [']'], rest) := by
      rw [hostText_append _ fun c member => ?_, closing]
      obtain ⟨within, opening, closing, -⟩ := inside_of_pieces (mem_writeEightPieces member)
      exact ⟨within, opening, closing, fun _ => rfl⟩
    show hostText true false ('[' :: (writeEightPieces ns ++ [']']) ++ rest) = _
    rw [List.cons_append, List.append_assoc, List.singleton_append, hostText,
      if_neg (by decide)]
    simp [pieces]
    rfl

theorem visible_of_isHexDigit {c : Char} (digit : isHexDigit c = true) : Visible c := by
  have ranges : ('0' ≤ c ∧ c ≤ '9') ∨ ('a' ≤ c ∧ c ≤ 'f') := by
    simpa [isHexDigit, isDigit] using digit
  rcases ranges with ⟨low, high⟩ | ⟨low, high⟩
  all_goals
    have low := UInt32.le_iff_toNat_le.mp low
    have high := UInt32.le_iff_toNat_le.mp high
    exact ⟨Nat.lt_of_lt_of_le (by decide) low, Nat.lt_of_le_of_lt high (by decide)⟩

theorem mem_written {h : UrlHost} (canonical : h.Canonical) {c : Char} (member : c ∈ h.written) :
    Visible c ∧ endsAuthority true c = false ∧ c ≠ '@' := by
  have named (plain : OfName c) : Visible c ∧ endsAuthority true c = false ∧ c ≠ '@' := by
    refine ⟨?_, inside_of_name plain, plain.ne (by decide)⟩
    obtain ⟨ascii, allowed, -⟩ := plain
    simp only [isForbidden, Bool.or_eq_false_iff, decide_eq_false_iff_not] at allowed
    exact ⟨by omega, by omega⟩
  cases canonical with
  | domain plain => exact named (plain c member)
  | fourBytes => exact named (ofName_of_mem_writeFourBytes member)
  | @eightPieces ns =>
    rcases List.mem_append.mp member with start | closing
    · rcases List.mem_cons.mp start with rfl | inner
      · decide
      · have piece := mem_writeEightPieces inner
        obtain ⟨within, -, -, other⟩ := inside_of_pieces piece
        refine ⟨?_, within, other⟩
        rcases piece with rfl | digit
        · decide
        · exact visible_of_isHexDigit digit
    · rw [List.mem_singleton.mp closing]
      decide

theorem mem_port {port : Option Nat} {c : Char} (member : c ∈ marked ':' (port.map decimal)) :
    Visible c ∧ endsAuthority true c = false ∧ c ≠ '@' := by
  cases port with
  | none => cases member
  | some p =>
    rcases List.mem_cons.mp member with rfl | member
    · decide
    · have digit : isHexDigit c = true := by
        rw [isHexDigit, isDigit_of_mem_decimal member, Bool.true_or]
      obtain ⟨within, -, -, other⟩ := inside_of_pieces (.inr digit)
      exact ⟨visible_of_isHexDigit digit, within, other⟩

theorem written_ne_nil {h : UrlHost} (canonical : h.Canonical) : h.written ≠ [] := by
  cases canonical with
  | domain _ nonempty => exact nonempty
  | @fourBytes n =>
    intro none_written
    have parts := congrArg List.length (splitOn_writeFourBytes n)
    rw [show writeFourBytes n = [] from none_written] at parts
    simp [splitOn, bytesOf] at parts
  | eightPieces => exact List.cons_ne_nil _ _

theorem specialHost?_written {h : UrlHost} (canonical : h.Canonical) :
    specialHost? h.written = .ok h ∨
      specialHost? h.written = .error .invalidInternationalName ∧
        ∃ name, h = .domain name ∧ asciiDomain? name = none := by
  have bare {name : List Char} (plain : ∀ c ∈ name, OfName c) : name.head? ≠ some '[' := fun head =>
    (plain _ (List.mem_of_mem_head? head)).ne (by decide) rfl
  have percent {name : List Char} (plain : ∀ c ∈ name, OfName c) : '%' ∉ name := fun member =>
    (plain _ member).ne (by decide) rfl
  cases canonical with
  | @domain name plain nonempty named =>
    rw [UrlHost.written, specialHost?, if_neg (bare plain), decodeText?_of_plain (percent plain),
      Option.bind_some]
    cases ascii : asciiDomain? name with
    | none => exact .inr ⟨rfl, name, rfl, ascii⟩
    | some again =>
      rw [eq_of_asciiDomain? plain ascii]
      left
      cases name with
      | nil => exact absurd rfl nonempty
      | cons c rest =>
        dsimp only
        rw [named, if_neg Bool.false_ne_true]
  | @fourBytes n bound =>
    left
    have plain : ∀ c ∈ writeFourBytes n, OfName c := fun c member =>
      ofName_of_mem_writeFourBytes member
    rw [UrlHost.written, specialHost?, if_neg (bare plain), decodeText?_of_plain (percent plain),
      Option.bind_some, asciiDomain?_writeFourBytes]
    have nonempty := written_ne_nil (.fourBytes bound)
    rw [UrlHost.written] at nonempty
    have number := endsInNumber_writeFourBytes n
    have bytes := fourBytes?_writeFourBytes bound
    cases text : writeFourBytes n with
    | nil => exact absurd text nonempty
    | cons c rest =>
      rw [text] at number bytes
      dsimp only
      rw [number, if_pos rfl, bytes]
  | @eightPieces ns length bound =>
    left
    rw [UrlHost.written, List.cons_append, specialHost?, if_pos List.head?_cons, bracketed?]
    simp [eightPieces?_writeEightPieces length bound]

end Host

theorem port?_written {scheme rest : List Char} {port : Option Nat}
    (canonical : ∀ p, port = some p → p ≤ 65535 ∧ some p ≠ ownPort? scheme)
    (ends : ∀ c, rest.head? = some c → endsAuthority true c = true) :
    port? scheme (marked ':' (port.map decimal) ++ rest) = .ok (port, rest) := by
  cases port with
  | none =>
    show port? scheme rest = _
    unfold port?
    split
    · cases ends ':' rfl
    · rfl
  | some p =>
    obtain ⟨small, other⟩ := canonical p rfl
    have digits : (decimal p ++ rest).span isDigit = (decimal p, rest) := by
      refine span_append (fun c member => isDigit_of_mem_decimal member) fun c head => ?_
      have marks := ends c head
      simp only [endsAuthority, isSlash, Bool.or_eq_true, beq_iff_eq, Bool.true_and] at marks
      rcases marks with ((rfl | rfl) | rfl) | rfl <;> decide
    have closed : (rest.isEmpty || rest.head?.any (endsAuthority true)) = true := by
      cases rest with
      | nil => rfl
      | cons c rest => simpa using ends c rfl
    show port? scheme (':' :: (decimal p ++ rest)) = _
    rw [port?, digits]
    dsimp only
    rw [closed, value?_decimal, Bool.not_true, if_neg Bool.false_ne_true]
    dsimp only
    rw [if_neg (Nat.not_lt.mpr small), if_neg other]

end CatalogMigration.Url
