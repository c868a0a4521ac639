import CatalogMigration.Proofs.Session.Steps

namespace CatalogMigration.Program

variable {Call : Type} {Answer : Call → Type} {σ α β : Type} {host : Host Call Answer σ}

/-- However late it is, a program ends with a result and in a state that go together. -/
def Ensures (host : Host Call Answer σ) (p : Program Call Answer α) (s : σ)
    (post : α → σ → Prop) : Prop :=
  ∀ now, post (p.outcome host now s).result (p.outcome host now s).state

namespace Ensures

variable {p : Program Call Answer α} {s : σ} {post post' : α → σ → Prop}

theorem done {a : α} (holds : post a s) : Ensures host (.done a) s post := fun _ => holds

theorem call {c : Call} {next : Answer c → Program Call Answer α}
    (rest : ∀ now, Ensures host (next (host c now s).1) (host c now s).2.1 post) :
    Ensures host (.call c next) s post := fun now => rest now now

theorem act (a : Act) (rest : Ensures host p s post) : Ensures host (.act a p) s post :=
  fun now => rest (a.after now)

theorem mono (ensures : Ensures host p s post) (weaker : ∀ a t, post a t → post' a t) :
    Ensures host p s post' := fun now => weaker _ _ (ensures now)

theorem bind {f : α → Program Call Answer β} {post : β → σ → Prop}
    (first : Ensures host p s fun a t => Ensures host (f a) t post) :
    Ensures host (p.bind f) s post := by
  intro now
  rw [outcome_bind]
  exact first now _

end Ensures

end CatalogMigration.Program
