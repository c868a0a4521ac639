import CatalogMigration.Client.Basic

namespace CatalogMigration

open Program

def Reply.succeeds : Reply → Bool
  | .response status _ => Status.isSuccess status
  | .closed | .silent | .refused => false

def Reply.misses : Reply → Bool
  | .response status _ => status == 404
  | .closed | .silent | .refused => false

namespace Exchange

variable {α : Type}

def received (read : Nat → String → Except ClientError α) (url : Url) :
    Reply → Except ClientError α
  | .response status body => read status (body.text?.getD "")
  | .closed => .error (.http (.broken url))
  | .silent => .error (.http (.unanswered url))
  | .refused => .error (.http (.refused url))

theorem ask_of_web {r : Request} (web : r.url.isWeb = true)
    (read : Nat → String → Except ClientError α) :
    ask r read = .call r fun reply => .done (received read r.url reply) := by
  rw [ask, if_pos web]
  congr 1
  funext reply
  cases reply <;> rfl

theorem ask_of_other {r : Request} (other : r.url.isWeb = false)
    (read : Nat → String → Except ClientError α) :
    ask r read = .done (.error (.http (.unsupported r.url))) := by
  rw [ask, if_neg (by simp [other])]

end Exchange

namespace Client

variable {c : Client} {space table : String} {url : Url}

theorem request_parts (c : Client) (method : Method) (url : Url) :
    (c.request method url).sender = .client ∧ (c.request method url).method = method ∧
      (c.request method url).content = .empty ∧
      (c.request method url).url.path = url.path ∧
      (c.request method url).url.query = url.query ∧
      (c.request method url).url.isWeb = url.isWeb := by
  rw [request, Request.ofClient]
  split <;> exact ⟨rfl, rfl, rfl, rfl, rfl, rfl⟩

/-- A table has no address that a request can be sent to. -/
def Nowhere (c : Client) (space table : String) : Prop :=
  ∀ url, c.tableUrl space table = .ok url → url.isWeb = false

theorem nowhere_or (c : Client) (space table : String) :
    c.Nowhere space table ∨ ∃ url, c.tableUrl space table = .ok url ∧ url.isWeb = true := by
  cases address : c.tableUrl space table with
  | error e => exact .inl fun url found => by rw [address] at found; cases found
  | ok url =>
    cases web : url.isWeb with
    | false => exact .inl fun other found => by rw [address] at found; cases found; exact web
    | true => exact .inr ⟨url, rfl, web⟩

theorem tableExists_of_web (address : c.tableUrl space table = .ok url) (web : url.isWeb = true) :
    c.tableExists space table = .call (c.request .head url) fun reply =>
      .done (Exchange.received readExistence (c.request .head url).url reply) := by
  rw [tableExists, address]
  exact Exchange.ask_of_web (by rw [(request_parts ..).2.2.2.2.2, web]) _

theorem dropUrl_of_address (address : c.tableUrl space table = .ok url) (purge : Bool) :
    c.dropUrl space table purge = .ok (url.withPair "purgeRequested" (Text.truth purge)) := by
  rw [dropUrl, address]
  rfl

def dropRequest (c : Client) (url : Url) (purge : Bool) : Request :=
  c.request .delete (url.withPair "purgeRequested" (Text.truth purge))

theorem dropTable_of_web (address : c.tableUrl space table = .ok url) (web : url.isWeb = true)
    (purge : Bool) :
    c.dropTable space table purge = .call (c.dropRequest url purge) fun reply =>
      .done (Exchange.received (readDrop space table) (c.dropRequest url purge).url reply) := by
  rw [dropTable, dropUrl_of_address address]
  refine Exchange.ask_of_web ?_ _
  rw [(request_parts ..).2.2.2.2.2, ← web]
  rfl

theorem tableExists_of_nowhere (nowhere : c.Nowhere space table) :
    ∃ e, c.tableExists space table = .done (.error e) := by
  rw [tableExists]
  cases address : c.tableUrl space table with
  | error e => exact ⟨e, rfl⟩
  | ok url =>
    exact ⟨_, Exchange.ask_of_other (by rw [(request_parts ..).2.2.2.2.2, nowhere url address]) _⟩

theorem existence_cases (url : Url) (reply : Reply) :
    reply.succeeds = true ∧ Exchange.received readExistence url reply = .ok true ∨
    reply.succeeds = false ∧ reply.misses = true ∧
      Exchange.received readExistence url reply = .ok false ∨
    reply.succeeds = false ∧ reply.misses = false ∧
      ∃ e, Exchange.received readExistence url reply = .error e := by
  cases reply with
  | response status body =>
    simp only [Reply.succeeds, Reply.misses, Exchange.received, readExistence, beq_iff_eq,
      beq_eq_false_iff_ne]
    by_cases success : Status.isSuccess status = true
    · exact .inl ⟨success, by rw [if_pos success]⟩
    · have refused : Status.isSuccess status = false := by simpa using success
      rw [if_neg success]
      by_cases missing : status = 404
      · exact .inr (.inl ⟨refused, missing, by rw [if_pos missing]⟩)
      · exact .inr (.inr ⟨refused, missing, _, by rw [if_neg missing]⟩)
  | closed | silent | refused => exact .inr (.inr ⟨rfl, rfl, _, rfl⟩)

theorem dropped_cases (space table : String) (url : Url) (reply : Reply) :
    reply.succeeds = true ∧ Exchange.received (readDrop space table) url reply = .ok () ∨
    reply.succeeds = false ∧
      ∃ e, Exchange.received (readDrop space table) url reply = .error e := by
  cases reply with
  | response status body =>
    simp only [Reply.succeeds, Exchange.received, readDrop]
    by_cases success : Status.isSuccess status = true
    · exact .inl ⟨success, by rw [if_pos success]⟩
    · refine .inr ⟨by simpa using success, ?_⟩
      rw [if_neg success]
      split <;> exact ⟨_, rfl⟩
  | closed | silent | refused => exact .inr ⟨rfl, _, rfl⟩

end Client

end CatalogMigration
