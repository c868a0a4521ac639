import CatalogMigration.Proofs.Session.Calls

namespace CatalogMigration.Program

variable {Call Call' : Type} {Answer : Call → Type} {Answer' : Call' → Type} {σ τ α β : Type}

/-- Some calls with answers to them, and what a program ends with after these. -/
inductive Trace : Program Call Answer α → List ((c : Call) × Answer c) → α → Prop
  | done (a : α) : Trace (.done a) [] a
  | call {c : Call} {next : Answer c → Program Call Answer α} (r : Answer c)
    {given : List ((c : Call) × Answer c)} {a : α} (rest : Trace (next r) given a) :
    Trace (.call c next) (⟨c, r⟩ :: given) a
  | act (b : Act) {p : Program Call Answer α} {given : List ((c : Call) × Answer c)} {a : α}
    (rest : Trace p given a) : Trace (.act b p) given a

variable {p : Program Call Answer α} {given : List ((c : Call) × Answer c)} {a : α} {b : β}

theorem trace_run (host : Host Call Answer σ) (p : Program Call Answer α) (now : Span) (s : σ) :
    Trace p (answers (p.steps host now s)) (p.outcome host now s).result := by
  induction p generalizing now s with
  | done a => exact .done a
  | call c next ih => exact .call _ (ih _ _ _)
  | act b next ih => exact .act b (ih _ _)

theorem Trace.of_bind {f : α → Program Call Answer β} (trace : Trace (p.bind f) given b) :
    ∃ a first rest, Trace p first a ∧ Trace (f a) rest b ∧ given = first ++ rest := by
  induction p generalizing given with
  | done a => exact ⟨a, [], given, .done a, trace, rfl⟩
  | call c next ih =>
    cases trace with
    | call r trace =>
      obtain ⟨a, first, rest, start, finish, rfl⟩ := ih r trace
      exact ⟨a, _ :: first, rest, .call r start, finish, rfl⟩
  | act b next ih =>
    cases trace with
    | act _ trace =>
      obtain ⟨a, first, rest, start, finish, same⟩ := ih trace
      exact ⟨a, first, rest, .act b start, finish, same⟩

theorem Trace.bind {f : α → Program Call Answer β} {first rest : List ((c : Call) × Answer c)}
    (start : Trace p first a) (finish : Trace (f a) rest b) :
    Trace (p.bind f) (first ++ rest) b := by
  induction start with
  | done a => exact finish
  | call r _ ih => exact .call r (ih finish)
  | act c _ ih => exact .act c (ih finish)

theorem Only.trace {P : Call → Prop} (only : Only P p) (trace : Trace p given a) :
    ∀ x ∈ given, P x.1 := by
  induction trace with
  | done a => simp
  | call r _ ih =>
    cases only with
    | call holds rest => exact List.forall_mem_cons.mpr ⟨holds, ih (rest r)⟩
  | act b _ ih =>
    cases only with
    | act _ rest => exact ih rest

theorem translate_bind {f : (c : Call) → τ → Program Call' Answer' (Answer c × τ)}
    (p : Program Call Answer α) (g : α → Program Call Answer β) (t : τ) :
    (p.bind g).translate f t = (p.translate f t).bind fun (a, t) => (g a).translate f t := by
  induction p generalizing t with
  | done a => rfl
  | call c next ih =>
    simp only [Program.bind, Program.translate, bind_assoc]
    congr 1
    funext answered
    exact ih answered.1 answered.2
  | act b next ih => exact congrArg (Program.act b) (ih t)

theorem Trace.of_translate_call
    {f : (c : Call) → τ → Program Call' Answer' (Answer c × τ)} {c : Call}
    {next : Answer c → Program Call Answer α} {t : τ} {given : List ((c : Call') × Answer' c)}
    {a : α × τ} (trace : Trace ((Program.call c next).translate f t) given a) :
    ∃ r t' first rest, Trace (f c t) first (r, t') ∧ Trace ((next r).translate f t') rest a ∧
      given = first ++ rest := by
  obtain ⟨⟨r, t'⟩, first, rest, start, finish, same⟩ := trace.of_bind
  exact ⟨r, t', first, rest, start, finish, same⟩

theorem Trace.of_translate_act
    {f : (c : Call) → τ → Program Call' Answer' (Answer c × τ)} {act : Act}
    {p : Program Call Answer α} {t : τ} {given : List ((c : Call') × Answer' c)}
    {a : α × τ} (trace : Trace ((Program.act act p).translate f t) given a) :
    Trace (p.translate f t) given a := by
  cases trace with
  | act _ trace => exact trace

end CatalogMigration.Program
