import CatalogMigration.Proofs.Text.Characters
import CatalogMigration.Proofs.Text.Parts
import CatalogMigration.Toml.Reader

namespace CatalogMigration.Toml

variable {c : Char} {cs rest : List Char}

/-- A text that stands for itself between double quotes. -/
def Unescaped (cs : List Char) : Prop := ∀ c ∈ cs, isPlain c = true ∧ c ≠ '"' ∧ c ≠ '\\'

instance (cs : List Char) : Decidable (Unescaped cs) := List.decidableBAll _ cs

def between (t : String) : List Char := '"' :: (t.toList ++ ['"'])

def IsMark (c : Char) : Prop := isSpace c = false ∧ c ≠ '\n' ∧ c ≠ '\r' ∧ c ≠ '#'

instance (c : Char) : Decidable (IsMark c) :=
  inferInstanceAs (Decidable (isSpace c = false ∧ c ≠ '\n' ∧ c ≠ '\r' ∧ c ≠ '#'))

theorem skipSpaces_mark (mark : IsMark c) : skipSpaces (c :: cs) = c :: cs :=
  List.dropWhile_cons_of_neg (by simp [mark.1])

section Values

theorem basicText_append (unescaped : Unescaped cs) :
    basicText (cs ++ '"' :: rest) = some (cs, rest) := by
  induction cs with
  | nil => rfl
  | cons c cs ih =>
    obtain ⟨⟨plain, quote, backslash⟩, others⟩ := List.forall_mem_cons.mp unescaped
    rw [List.cons_append, basicText, ih others]
    · simp [plain, backslash]
    all_goals simp [quote, backslash]

theorem readValue_between {t : String} (unescaped : Unescaped t.toList)
    (ends : rest.head? ≠ some '"') (fuel depth : Nat) :
    readValue (fuel + 1) depth (between t ++ rest) = some (.text t, rest) := by
  have split : between t ++ rest = '"' :: (t.toList ++ '"' :: rest) := by simp [between]
  have read : text? ('"' :: (t.toList ++ '"' :: rest)) = some (t.toList, rest) := by
    rw [text?]
    · exact basicText_append unescaped
    · intro after same
      cases chars : t.toList with
      | nil =>
        rw [chars] at same
        cases same
        exact ends rfl
      | cons c cs =>
        rw [chars] at same unescaped
        obtain ⟨-, quote, -⟩ := unescaped c List.mem_cons_self
        exact quote (List.cons.inj same).1
  rw [split, readValue, scalar?, read]
  · simp only [Option.map_some, String.ofList_toList]
  all_goals nofun

theorem skipLines_front {blanks : List Char} (blank : ∀ b ∈ blanks, isSpace b = true)
    (mark : IsMark c) : skipLines (blanks ++ c :: cs) = c :: cs := by
  obtain ⟨space, line, carriage, -⟩ := mark
  induction blanks with
  | nil =>
    rw [List.nil_append, skipLines]
    · simp [space, line]
    · exact fun _ same => absurd same carriage
  | cons b blanks ih =>
    obtain ⟨first, others⟩ := List.forall_mem_cons.mp blank
    rw [List.cons_append, skipLines, ih others]
    · simp [first]
    · rintro _ rfl
      cases first

theorem skipAll_front {blanks : List Char} (blank : ∀ b ∈ blanks, isSpace b = true)
    (mark : IsMark c) :
    skipAll (blanks ++ c :: cs).length (blanks ++ c :: cs) = c :: cs := by
  rw [List.length_append, List.length_cons, ← Nat.add_assoc, skipAll, skipLines_front blank mark]
  split
  · next same => exact absurd (List.cons.inj same).1 mark.2.2.2
  · rfl

theorem skipAll_mark (mark : IsMark c) : skipAll (c :: cs).length (c :: cs) = c :: cs :=
  @skipAll_front c cs [] (by simp) mark

theorem readItems_between {t : String} (unescaped : Unescaped t.toList) {blanks : List Char}
    (blank : ∀ b ∈ blanks, isSpace b = true) (fuel depth : Nat) (tail : List Char) :
    readItems (fuel + 2) depth (blanks ++ (between t ++ ']' :: tail)) = some ([.text t], tail) ∧
    readItems (fuel + 2) depth (blanks ++ (between t ++ ',' :: tail)) =
      (readItems (fuel + 1) depth tail).map fun (items, rest) => (.text t :: items, rest) := by
  have front (next : List Char) : skipAll (blanks ++ (between t ++ next)).length
      (blanks ++ (between t ++ next)) = between t ++ next := skipAll_front blank (by decide)
  constructor
  · have close : skipAll (']' :: tail).length (']' :: tail) = ']' :: tail :=
      skipAll_mark (by decide)
    rw [readItems, front]
    show (readValue (fuel + 1) depth (between t ++ ']' :: tail)).bind _ = _
    rw [readValue_between unescaped (by simp)]
    simp only [Option.bind_some, close]
  · have comma : skipAll (',' :: tail).length (',' :: tail) = ',' :: tail :=
      skipAll_mark (by decide)
    rw [readItems, front]
    show (readValue (fuel + 1) depth (between t ++ ',' :: tail)).bind _ = _
    rw [readValue_between unescaped (by simp)]
    simp only [Option.bind_some, comma]

theorem readItems_texts {texts : List String} (unescaped : ∀ t ∈ texts, Unescaped t.toList)
    {blanks : List Char} (blank : ∀ b ∈ blanks, isSpace b = true) {fuel : Nat}
    (enough : texts.length < fuel) (depth : Nat) (rest : List Char) :
    readItems fuel depth
        (blanks ++ (Text.joinedWith [',', ' '] (texts.map between) ++ ']' :: rest)) =
      some (texts.map .text, rest) := by
  induction texts generalizing blanks fuel with
  | nil =>
    obtain ⟨fuel, rfl⟩ := Nat.exists_eq_succ_of_ne_zero (Nat.ne_zero_of_lt enough)
    have close : skipAll (blanks ++ ']' :: rest).length (blanks ++ ']' :: rest) = ']' :: rest :=
      skipAll_front blank (by decide)
    rw [List.map_nil, Text.joinedWith, List.nil_append, readItems, close]
    rfl
  | cons t texts ih =>
    obtain ⟨here, others⟩ := List.forall_mem_cons.mp unescaped
    have two : 2 ≤ fuel := by
      rw [List.length_cons] at enough
      omega
    obtain ⟨fuel, rfl⟩ := Nat.exists_eq_add_of_le' two
    cases texts with
    | nil => exact (readItems_between here blank fuel depth rest).1
    | cons next texts =>
      have joined : Text.joinedWith [',', ' '] ((t :: next :: texts).map between) ++ ']' :: rest =
          between t ++ ',' :: ([' '] ++
            (Text.joinedWith [',', ' '] ((next :: texts).map between) ++ ']' :: rest)) := by
        simp [Text.joinedWith]
      have more := @ih others [' '] (by simp [isSpace]) (fuel + 1) (by simpa using enough)
      rw [joined, (readItems_between here blank fuel depth _).2, more]
      rfl

theorem readValue_texts {texts : List String} (unescaped : ∀ t ∈ texts, Unescaped t.toList)
    {fuel : Nat} (enough : texts.length + 1 < fuel) (rest : List Char) :
    readValue fuel 0 ('[' :: (Text.joinedWith [',', ' '] (texts.map between) ++ ']' :: rest)) =
      some (.array (texts.map .text), rest) := by
  obtain ⟨fuel, rfl⟩ := Nat.exists_eq_succ_of_ne_zero (Nat.ne_zero_of_lt enough)
  have items := @readItems_texts texts unescaped [] (by simp) fuel (by omega) 1 rest
  rw [List.nil_append] at items
  rw [readValue, if_pos (by decide), items]
  rfl

end Values

section Names

def dotted (names : List String) : List Char := Text.joinedWith ['.'] (names.map String.toList)

def Bare (part : List Char) : Prop := part ≠ [] ∧ ∀ c ∈ part, isBare c = true

instance (part : List Char) : Decidable (Bare part) :=
  have := List.decidableBAll (isBare · = true) part
  inferInstanceAs (Decidable (part ≠ [] ∧ ∀ c ∈ part, isBare c = true))

theorem mark_of_isBare (bare : isBare c = true) :
    IsMark c ∧ c ≠ '"' ∧ c ≠ '\'' ∧ c ≠ '[' ∧ c ≠ '.' := by
  have other (d : Char) (marks : isBare d = false) : c ≠ d := by
    rintro rfl
    cases bare.symm.trans marks
  have space : isSpace c = false := by
    simp [isSpace, other ' ' (by decide), other '\t' (by decide)]
  exact ⟨⟨space, other _ (by decide), other _ (by decide), other _ (by decide)⟩,
    other _ (by decide), other _ (by decide), other _ (by decide), other _ (by decide)⟩

theorem namePart?_bare {part : List Char} (bare : Bare part)
    (ends : ∀ c, rest.head? = some c → isBare c = false) :
    namePart? (part ++ rest) = some (String.ofList part, rest) := by
  obtain ⟨filled, all⟩ := bare
  have span : (part ++ rest).span isBare = (part, rest) := Text.span_append all ends
  cases part with
  | nil => exact absurd rfl filled
  | cons c part =>
    have first : isBare c = true := all c List.mem_cons_self
    obtain ⟨-, quote, apostrophe, -⟩ := mark_of_isBare first
    rw [List.cons_append] at span ⊢
    unfold namePart?
    split
    · next same => exact absurd (List.cons.inj same).1 quote
    · next same => exact absurd (List.cons.inj same).1 apostrophe
    · have opens : (c :: (part ++ rest)).head?.any isBare = true := first
      rw [if_pos opens, span]
      rfl

theorem skipSpaces_bare {part : List Char} (bare : Bare part) :
    skipSpaces (part ++ rest) = part ++ rest := by
  obtain ⟨filled, all⟩ := bare
  cases part with
  | nil => exact absurd rfl filled
  | cons c part => exact skipSpaces_mark (mark_of_isBare (all c List.mem_cons_self)).1

/-- Where a name ends: no part of one follows, and no point behind blanks. -/
structure EndsName (rest : List Char) : Prop where
  other : ∀ c, rest.head? = some c → isBare c = false
  noPoint : (skipSpaces rest).head? ≠ some '.'

theorem nameParts?_dotted {names : List String} (some_name : names ≠ [])
    (bare : ∀ name ∈ names, Bare name.toList) (ends : EndsName rest) {fuel : Nat}
    (enough : names.length ≤ fuel) :
    nameParts? fuel (dotted names ++ rest) = some (names, skipSpaces rest) := by
  induction names generalizing fuel with
  | nil => exact absurd rfl some_name
  | cons name names ih =>
    obtain ⟨here, others⟩ := List.forall_mem_cons.mp bare
    obtain ⟨fuel, rfl⟩ := Nat.exists_eq_succ_of_ne_zero (n := fuel) (by
      rintro rfl
      simp at enough)
    cases names with
    | nil =>
      have read := namePart?_bare here ends.other
      rw [dotted, List.map_singleton, Text.joinedWith, nameParts?, skipSpaces_bare here, read]
      simp only [bind, Option.bind_some]
      split
      · next same =>
        have point := ends.noPoint
        rw [same] at point
        exact absurd rfl point
      · rw [String.ofList_toList]
    | cons next names =>
      have parted : dotted (name :: next :: names) ++ rest =
          name.toList ++ '.' :: (dotted (next :: names) ++ rest) := by
        simp [dotted, Text.joinedWith]
      have read (later : List Char) : namePart? (name.toList ++ '.' :: later) =
          some (String.ofList name.toList, '.' :: later) :=
        namePart?_bare here (by rintro c ⟨⟩; decide)
      have fewer : (next :: names).length ≤ fuel := by simpa using enough
      have more := ih (by simp) others fewer
      rw [parted, nameParts?, skipSpaces_bare here, read]
      simp only [bind, Option.bind_some, skipSpaces_mark (show IsMark '.' by decide), more]
      rw [String.ofList_toList]
      rfl

theorem name?_dotted {names : List String} {last : String}
    (bare : ∀ name ∈ names ++ [last], Bare name.toList) (short : names.length + 1 < depthBound)
    (ends : EndsName rest) :
    name? (dotted (names ++ [last]) ++ rest) =
      some ((names, last), skipSpaces rest) := by
  have counted := Text.length_le_joinedWith (show ['.'] ≠ [] by simp)
    ((names ++ [last]).map String.toList)
  have enough : (names ++ [last]).length ≤ (dotted (names ++ [last]) ++ rest).length + 1 := by
    rw [dotted]
    simp only [List.length_append, List.length_map] at counted ⊢
    omega
  have parts := nameParts?_dotted (by simp) bare ends enough
  rw [name?, parts]
  simp [short]

end Names

section Lines

variable {names : List String} {last : String} {s : Statement}

theorem dotted_starts (bare : ∀ name ∈ names, Bare name.toList) (some_name : names ≠ [])
    (rest : List Char) : ∃ c cs, isBare c = true ∧ dotted names ++ rest = c :: cs := by
  cases names with
  | nil => exact absurd rfl some_name
  | cons name names =>
    obtain ⟨filled, all⟩ := bare name List.mem_cons_self
    cases chars : name.toList with
    | nil => exact absurd chars filled
    | cons c part =>
      have first : isBare c = true := all c (chars ▸ List.mem_cons_self)
      cases names with
      | nil => exact ⟨c, part ++ rest, first, by simp [dotted, Text.joinedWith, chars]⟩
      | cons next names => exact ⟨c, _, first, by simp [dotted, Text.joinedWith, chars]; rfl⟩

theorem statement?_header (bare : ∀ name ∈ names ++ [last], Bare name.toList)
    (short : names.length + 1 < depthBound) :
    statement? ('[' :: (dotted (names ++ [last]) ++ ']' :: rest)) =
      some (.table names last, rest) := by
  have ends : EndsName (']' :: rest) :=
    ⟨by rintro c ⟨⟩; decide, by simp [skipSpaces_mark (show IsMark ']' by decide)]⟩
  have named := name?_dotted bare short ends
  obtain ⟨c, cs, first, starts⟩ := dotted_starts bare (by simp) (']' :: rest)
  rw [starts] at named ⊢
  unfold statement?
  split
  · next same =>
    have bracket : c = '[' := (List.cons.inj (List.cons.inj same).2).1
    exact absurd bracket (mark_of_isBare first).2.2.2.1
  · next same =>
    cases same
    rw [named, skipSpaces_mark (by decide)]
    rfl
  · next single => exact absurd rfl (single _)

theorem statement?_pair (bare : ∀ name ∈ names ++ [last], Bare name.toList)
    (short : names.length + 1 < depthBound) {text : List Char} {v : Toml}
    (start : skipSpaces text = text)
    (read : ∀ fuel, text.length < fuel → readValue fuel 0 text = some (v, rest)) :
    statement? (dotted (names ++ [last]) ++ ' ' :: '=' :: ' ' :: text) =
      some (.pair names last v, rest) := by
  have blank (cs : List Char) : skipSpaces (' ' :: cs) = skipSpaces cs := rfl
  have ends : EndsName (' ' :: '=' :: ' ' :: text) :=
    ⟨by rintro c ⟨⟩; decide, by simp [blank, skipSpaces_mark (show IsMark '=' by decide)]⟩
  have named := name?_dotted bare short ends
  obtain ⟨c, cs, first, starts⟩ := dotted_starts bare (by simp) (' ' :: '=' :: ' ' :: text)
  have value := read (2 * (' ' :: text).length + 2) (by rw [List.length_cons]; omega)
  rw [starts] at named ⊢
  have bracket := (mark_of_isBare first).2.2.2.1
  unfold statement?
  split
  · next same => exact absurd (List.cons.inj same).1 bracket
  · next same => exact absurd (List.cons.inj same).1 bracket
  · rw [named, blank, skipSpaces_mark (by decide)]
    simp only [bind, Option.bind_some, blank, start, value]

theorem lineEnd?_break (rest : List Char) : lineEnd? ('\n' :: rest) = some rest := rfl

theorem statements?_blank (fuel : Nat) (rest : List Char) :
    statements? (fuel + 1) ('\n' :: rest) = statements? fuel rest := rfl

theorem statements?_line (mark : IsMark c)
    (read : statement? (c :: cs) = some (s, '\n' :: rest)) (fuel : Nat) :
    statements? (fuel + 1) (c :: cs) = (statements? fuel rest).map (s :: ·) := by
  have noBreak : afterLineBreak? (c :: cs) = none := by
    unfold afterLineBreak?
    split
    · next same => exact absurd (List.cons.inj same).1 mark.2.1
    · next same => exact absurd (List.cons.inj same).1 mark.2.2.1
    · rfl
  rw [statements?, skipSpaces_mark mark]
  simp only [List.head?_cons, noBreak]
  split
  · next same => exact absurd (Option.some.inj same) mark.2.2.2
  · rw [read]
    simp only [bind, Option.bind_some, lineEnd?_break]

def headerLine (names : List String) (last : String) : List Char :=
  '[' :: (dotted (names ++ [last]) ++ [']', '\n'])

def pairLine (names : List String) (last : String) (text : List Char) : List Char :=
  dotted (names ++ [last]) ++ [' ', '=', ' '] ++ text ++ ['\n']

theorem statements?_headerLine (bare : ∀ name ∈ names ++ [last], Bare name.toList)
    (short : names.length + 1 < depthBound) (fuel : Nat) :
    statements? (fuel + 1) (headerLine names last ++ rest) =
      (statements? fuel rest).map (.table names last :: ·) := by
  have line : headerLine names last ++ rest =
      '[' :: (dotted (names ++ [last]) ++ ']' :: '\n' :: rest) := by
    simp [headerLine]
  rw [line]
  exact statements?_line (by decide) (statement?_header bare short) fuel

theorem statements?_pairLine (bare : ∀ name ∈ names ++ [last], Bare name.toList)
    (short : names.length + 1 < depthBound) {text : List Char} {v : Toml}
    (start : ∀ more, skipSpaces (text ++ more) = text ++ more)
    (read : ∀ fuel, text.length < fuel →
      readValue fuel 0 (text ++ '\n' :: rest) = some (v, '\n' :: rest)) (fuel : Nat) :
    statements? (fuel + 1) (pairLine names last text ++ rest) =
      (statements? fuel rest).map (.pair names last v :: ·) := by
  have line : pairLine names last text ++ rest =
      dotted (names ++ [last]) ++ ' ' :: '=' :: ' ' :: (text ++ '\n' :: rest) := by
    simp [pairLine]
  have pair := statement?_pair bare short (start ('\n' :: rest)) fun fuel enough =>
    read fuel (by rw [List.length_append] at enough; omega)
  obtain ⟨c, cs, first, starts⟩ :=
    dotted_starts bare (by simp) (' ' :: '=' :: ' ' :: (text ++ '\n' :: rest))
  rw [line]
  rw [starts] at pair ⊢
  exact statements?_line (mark_of_isBare first).1 pair fuel

end Lines

end CatalogMigration.Toml
