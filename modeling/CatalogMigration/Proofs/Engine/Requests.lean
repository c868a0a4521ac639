import CatalogMigration.Engine.Basic
import CatalogMigration.Proofs.Session.Calls

namespace CatalogMigration

open Program

namespace EngineLink

variable {α : Type} (l : EngineLink) (method : Method) (address : String) (content : Content)

def request? : Option Request :=
  match Url.ofText address with
  | .error _ => none
  | .ok url =>
    match l.authorization url with
    | .error _ => none
    | .ok authorization =>
      if url.isWeb then some ⟨.engine, method, url.withoutUserinfo, authorization, content⟩
      else none

def received (read : Nat → Body → Except EngineFault α) : Reply → Except EngineFault α
  | .response status body => read status body
  | .silent => .error .unanswered
  | .closed | .refused => .error .request

def spaceCheck? (levels : List String) : Option Request :=
  l.request? .head (l.properties.below ["namespaces", spaceText levels]) .empty

def spaceCreation? (levels : List String) : Option Request :=
  l.request? .post (l.properties.below ["namespaces"]) (.space levels)

variable {l method address content}

theorem ask_of_request {r : Request} (asked : l.request? method address content = some r)
    (read : Nat → Body → Except EngineFault α) :
    l.ask method address content read = .call r fun reply => .done (received read reply) := by
  rw [request?] at asked
  rw [ask]
  cases parsed : Url.ofText address with
  | error e => simp [parsed] at asked
  | ok url =>
    cases authorized : l.authorization url with
    | error f => simp [parsed, authorized] at asked
    | ok authorization =>
      simp only [parsed, authorized, Option.ite_none_right_eq_some, Option.some.injEq] at asked
      obtain ⟨web, rfl⟩ := asked
      simp only [authorized, exchange]
      rw [if_pos (show url.withoutUserinfo.isWeb = true from web)]
      congr 1
      funext reply
      cases reply <;> rfl

theorem request?_fields {r : Request} (asked : l.request? method address content = some r) :
    r.sender = .engine ∧ r.method = method ∧ r.content = content := by
  rw [request?] at asked
  repeat' split at asked
  all_goals cases asked
  exact ⟨rfl, rfl, rfl⟩

theorem ask_only {P : Request → Prop} (read : Nat → Body → Except EngineFault α)
    (holds : ∀ r : Request, r.sender = .engine → r.method = method → r.content = content → P r) :
    Only P (l.ask method address content read) := by
  rw [ask]
  split
  · exact .done _
  · split
    · exact .done _
    · rw [exchange]
      split
      · refine .call (holds _ rfl rfl rfl) fun reply => ?_
        cases reply <;> exact .done _
      · exact .done _

theorem establish_only {P : Request → Prop} (p : EngineProperties)
    (holds : ∀ r : Request, r.sender = .engine → r.method = .get ∧ r.content = .empty ∨
      r.method = .post ∧ (∃ pairs, r.content = .form pairs) → P r) : Only P (establish p) := by
  refine Only.bind ?_ fun token => ?_
  · rw [obtainToken]
    split
    · exact .done _
    · exact .done _
    · exact ask_only _ fun r sender method content => holds r sender (.inr ⟨method, _, content⟩)
  · cases token with
    | error f => exact .done _
    | ok token =>
      refine Only.bind (ask_only _ fun r sender method content =>
        holds r sender (.inl ⟨method, content⟩)) fun found => ?_
      cases found <;> exact .done _

end EngineLink

namespace Engine

variable {α : Type}

def linking (e : Engine) : Exchange (Except EngineFault EngineLink) :=
  match e.link with
  | some l => .done (.ok l)
  | none => EngineLink.establish e.properties

theorem perform_eq (e : Engine) (op : EngineLink → Exchange (Except EngineFault α)) :
    e.perform op = e.linking.bind fun
      | .error f => .done (.error f, e)
      | .ok l => (op l).bind fun r => .done (r, { e with link := some l }) := by
  cases e with
  | mk properties link =>
    cases link with
    | none => rfl
    | some l => rfl

theorem linking_only {P : Request → Prop} (e : Engine)
    (holds : ∀ r : Request, r.sender = .engine → r.method = .get ∧ r.content = .empty ∨
      r.method = .post ∧ (∃ pairs, r.content = .form pairs) → P r) : Only P e.linking := by
  rw [linking]
  split
  · exact .done _
  · exact EngineLink.establish_only _ holds

end Engine

end CatalogMigration
