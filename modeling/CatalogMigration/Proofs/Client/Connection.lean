import CatalogMigration.Proofs.Client.Requests
import CatalogMigration.Proofs.Session.Trace

namespace CatalogMigration

open Program

abbrev Asked := (_ : Request) × Reply

/-- A request of a client to an address. It travels without what the address says of who asks,
which takes the place of any other authorization. -/
structure Request.SentTo (r : Request) (url : Url) (method : Method)
    (authorization : Option String) (content : Content) : Prop where
  sender : r.sender = .client
  method : r.method = method
  address : r.url.withoutUserinfo = url.withoutUserinfo
  authorization : r.authorization = url.basicAuthorization?.or authorization
  content : r.content = content

theorem Request.ofClient_sentTo (method : Method) (url : Url) (authorization : Option String)
    (content : Content) :
    (Request.ofClient method url authorization content).SentTo url method authorization content := by
  rw [Request.ofClient]
  cases basic : url.basicAuthorization? with
  | some value => exact ⟨rfl, rfl, rfl, by rw [basic]; rfl, rfl⟩
  | none => exact ⟨rfl, rfl, rfl, by rw [basic]; rfl, rfl⟩

theorem Request.isWeb_ofClient (method : Method) (url : Url) (authorization : Option String)
    (content : Content) :
    (Request.ofClient method url authorization content).url.isWeb = url.isWeb := by
  rw [Request.ofClient]
  split <;> rfl

namespace Reply

def success? : Reply → Option String
  | .response status body => if Status.isSuccess status then some (body.text?.getD "") else none
  | .closed | .silent | .refused => none

def token? (reply : Reply) : Option String := (reply.success?.bind TokenGrant.ofText?).map (·.token)

def properties? (reply : Reply) : Option CatalogProperties :=
  reply.success?.bind CatalogProperties.ofText?

end Reply

namespace Exchange

variable {α β : Type} {given : List Asked}

theorem trace_of_andThen {p : Exchange (Except ClientError α)}
    {next : α → Exchange (Except ClientError β)} {result : Except ClientError β}
    (trace : Trace (p.andThen next) given result) :
    (∃ e, Trace p given (.error e) ∧ result = .error e) ∨
    ∃ a first rest, Trace p first (.ok a) ∧ Trace (next a) rest result ∧ given = first ++ rest := by
  obtain ⟨found, first, rest, start, finish, split⟩ := trace.of_bind
  cases found with
  | error e =>
    cases finish
    rw [List.append_nil] at split
    exact .inl ⟨e, split ▸ start, rfl⟩
  | ok a => exact .inr ⟨a, first, rest, start, finish, split⟩

theorem trace_andThen {p : Exchange (Except ClientError α)}
    {next : α → Exchange (Except ClientError β)} {first rest : List Asked} {a : α}
    {result : Except ClientError β} (start : Trace p first (.ok a))
    (finish : Trace (next a) rest result) : Trace (p.andThen next) (first ++ rest) result :=
  start.bind finish

theorem trace_andThen_error {p : Exchange (Except ClientError α)}
    {next : α → Exchange (Except ClientError β)} {e : ClientError}
    (failed : Trace p given (.error e)) : Trace (p.andThen next) given (.error e) :=
  List.append_nil given ▸ failed.bind (.done _)

theorem trace_of_ask {r : Request} {read : Nat → String → Except ClientError α}
    {result : Except ClientError α} (trace : Trace (ask r read) given result) :
    (r.url.isWeb = false ∧ given = [] ∧ ∃ e, result = .error e) ∨
    r.url.isWeb = true ∧ ∃ reply, given = [⟨r, reply⟩] ∧ result = received read r.url reply := by
  cases web : r.url.isWeb with
  | false =>
    rw [ask_of_other web] at trace
    cases trace
    exact .inl ⟨rfl, rfl, _, rfl⟩
  | true =>
    rw [ask_of_web web] at trace
    cases trace with
    | call reply rest =>
      cases rest
      exact .inr ⟨rfl, reply, rfl, rfl⟩

theorem ask_only {P : Request → Prop} {r : Request} (read : Nat → String → Except ClientError α)
    (holds : r.url.isWeb = true → P r) : Only P (ask r read) := by
  cases web : r.url.isWeb with
  | false =>
    rw [ask_of_other web]
    exact .done _
  | true =>
    rw [ask_of_web web]
    exact .call (holds web) fun _ => .done _

theorem received_document (decode? : String → Option β) (make : β → α)
    {read : Nat → String → Except ClientError α}
    (found : ∀ status body d, Status.isSuccess status = true → decode? body = some d →
      read status body = .ok (make d))
    (other : ∀ status body, (Status.isSuccess status = true → decode? body = none) →
      ∃ e, read status body = .error e) (url : Url) (reply : Reply) :
    (∃ d, reply.success?.bind decode? = some d ∧ received read url reply = .ok (make d)) ∨
    reply.success?.bind decode? = none ∧ ∃ e, received read url reply = .error e := by
  cases reply with
  | closed | silent | refused => exact .inr ⟨rfl, _, rfl⟩
  | response status body =>
    rw [received, Reply.success?]
    by_cases success : Status.isSuccess status = true
    · rw [if_pos success, Option.bind_some]
      cases decoded : decode? (body.text?.getD "") with
      | some d => exact .inl ⟨d, rfl, found status _ d success decoded⟩
      | none => exact .inr ⟨rfl, other status _ fun _ => decoded⟩
    · rw [if_neg success]
      exact .inr ⟨rfl, other status _ fun same => absurd same success⟩

end Exchange

namespace Client

variable {config : ClientConfig} {given : List Asked}

theorem received_token (url : Url) (reply : Reply) :
    (∃ t, reply.token? = some t ∧
      Exchange.received (fun status body => (readToken status body).map some) url reply =
        .ok (some t)) ∨
    reply.token? = none ∧ ∃ e,
      Exchange.received (fun status body => (readToken status body).map some) url reply =
        .error e := by
  have document := Exchange.received_document TokenGrant.ofText? (fun grant => some grant.token)
    (fun status body grant success decoded =>
      show (readToken status body).map some = .ok (some grant.token) by
        rw [readToken, if_pos success, decoded]
        rfl)
    (fun status body undecoded => by
      by_cases success : Status.isSuccess status = true
      · rw [readToken, if_pos success, undecoded success]
        exact ⟨_, rfl⟩
      · rw [readToken, if_neg success]
        exact ⟨_, rfl⟩) url reply
  rcases document with ⟨grant, decoded, read⟩ | ⟨undecoded, failed⟩
  · exact .inl ⟨grant.token, by rw [Reply.token?, decoded]; rfl, read⟩
  · exact .inr ⟨by rw [Reply.token?, undecoded]; rfl, failed⟩

theorem received_properties (url : Url) (reply : Reply) :
    (∃ p, reply.properties? = some p ∧ Exchange.received readProperties url reply = .ok p) ∨
    reply.properties? = none ∧ ∃ e, Exchange.received readProperties url reply = .error e := by
  refine Exchange.received_document CatalogProperties.ofText? id ?_ ?_ url reply
  · intro status body p success decoded
    rw [readProperties, if_pos success, decoded]
    rfl
  · intro status body undecoded
    rw [readProperties]
    by_cases success : Status.isSuccess status = true
    · rw [if_pos success, undecoded success]
      exact ⟨_, rfl⟩
    · rw [if_neg success]
      exact ⟨_, rfl⟩

/-- How a token is come by: what is asked for it, and the token, if there is one to have. -/
inductive Identifies (config : ClientConfig) : List Asked → Except ClientError (Option String) → Prop
  | anonymous (mode : config.authentication = .anonymous) : Identifies config [] (.ok none)
  | token {t : String} (mode : config.authentication = .token t) : Identifies config [] (.ok (some t))
  | nowhere {endpoint : Option Url} {id secret : String} {scope : Option String} {e : ClientError}
    (mode : config.authentication = .client endpoint id secret scope)
    (nowhere : ∀ url, config.tokenEndpoint? = .ok (some url) → url.isWeb = false) :
    Identifies config [] (.error e)
  | refused {endpoint : Option Url} {id secret : String} {scope : Option String} {url : Url}
    {r : Request} {reply : Reply} {e : ClientError}
    (mode : config.authentication = .client endpoint id secret scope)
    (address : config.tokenEndpoint? = .ok (some url)) (web : url.isWeb = true)
    (sent : r.SentTo url .post none (tokenForm id secret scope))
    (refused : reply.token? = none) :
    Identifies config [⟨r, reply⟩] (.error e)
  | granted {endpoint : Option Url} {id secret : String} {scope : Option String} {url : Url}
    {r : Request} {reply : Reply} {t : String}
    (mode : config.authentication = .client endpoint id secret scope)
    (address : config.tokenEndpoint? = .ok (some url)) (web : url.isWeb = true)
    (sent : r.SentTo url .post none (tokenForm id secret scope))
    (granted : reply.token? = some t) :
    Identifies config [⟨r, reply⟩] (.ok (some t))

def bearer? : Option String → Option (Option String)
  | none => some none
  | some token =>
    if isHeaderText ("Bearer " ++ token) then some (some (headerText ("Bearer " ++ token))) else none

/-- How a client connects: what is asked, and the client, if all went well. -/
inductive Connects (config : ClientConfig) : List Asked → Except ClientError Client → Prop
  | unidentified {opening : List Asked} {e : ClientError}
    (failed : Identifies config opening (.error e)) : Connects config opening (.error e)
  | unfit {opening : List Asked} {token : Option String} {e : ClientError}
    (identified : Identifies config opening (.ok token)) (unfit : bearer? token = none) :
    Connects config opening (.error e)
  | nowhere {opening : List Asked} {token authorization : Option String} {e : ClientError}
    (identified : Identifies config opening (.ok token))
    (fit : bearer? token = some authorization)
    (nowhere : ∀ url, propertiesUrl config = .ok url → url.isWeb = false) :
    Connects config opening (.error e)
  | untold {opening : List Asked} {token authorization : Option String} {url : Url} {r : Request}
    {reply : Reply} {e : ClientError}
    (identified : Identifies config opening (.ok token))
    (fit : bearer? token = some authorization)
    (address : propertiesUrl config = .ok url) (web : url.isWeb = true)
    (sent : r.SentTo url .get authorization .empty) (untold : reply.properties? = none) :
    Connects config (opening ++ [⟨r, reply⟩]) (.error e)
  | told {opening : List Asked} {token authorization : Option String} {url : Url} {r : Request}
    {reply : Reply} {properties : CatalogProperties}
    (identified : Identifies config opening (.ok token))
    (fit : bearer? token = some authorization)
    (address : propertiesUrl config = .ok url) (web : url.isWeb = true)
    (sent : r.SentTo url .get authorization .empty) (told : reply.properties? = some properties) :
    Connects config (opening ++ [⟨r, reply⟩]) (.ok ⟨config, authorization, properties.pathPrefix?⟩)

theorem token_trace {result : Except ClientError (Option String)}
    (trace : Trace (token config) given result) : Identifies config given result := by
  rw [token] at trace
  cases mode : config.authentication with
  | anonymous =>
    simp only [mode] at trace
    cases trace
    exact .anonymous mode
  | token t =>
    simp only [mode] at trace
    cases trace
    exact .token mode
  | client endpoint id secret scope =>
    simp only [mode] at trace
    cases address : config.tokenEndpoint? with
    | error e =>
      simp only [address] at trace
      cases trace
      exact .nowhere mode (by simp [address])
    | ok found =>
      cases found with
      | none =>
        simp only [address] at trace
        cases trace
        exact .nowhere mode (by simp [address])
      | some url =>
        simp only [address] at trace
        have sent := Request.ofClient_sentTo .post url none (tokenForm id secret scope)
        rcases Exchange.trace_of_ask trace with ⟨other, rfl, e, rfl⟩ | ⟨web, reply, rfl, rfl⟩
        · rw [Request.isWeb_ofClient] at other
          exact .nowhere mode fun url found => by
            cases address.symm.trans found
            exact other
        · rw [Request.isWeb_ofClient] at web
          rcases received_token _ reply with ⟨t, granted, read⟩ | ⟨refused, e, read⟩
          · rw [read]
            exact .granted mode address web sent granted
          · rw [read]
            exact .refused mode address web sent refused

theorem ofConfig_cases (config : ClientConfig) (token : Option String) :
    (∃ authorization, bearer? token = some authorization ∧
      ofConfig config token = .ok ⟨config, authorization, none⟩) ∨
    bearer? token = none ∧ ∃ e, ofConfig config token = .error e := by
  cases token with
  | none => exact .inl ⟨none, rfl, rfl⟩
  | some t =>
    rw [bearer?, ofConfig]
    by_cases fits : isHeaderText ("Bearer " ++ t) = true
    · exact .inl ⟨_, if_pos fits, if_pos fits⟩
    · exact .inr ⟨if_neg fits, _, if_neg fits⟩

theorem properties_trace {c : Client} {result : Except ClientError CatalogProperties}
    (trace : Trace c.properties given result) :
    ((∀ url, propertiesUrl c.config = .ok url → url.isWeb = false) ∧ given = [] ∧
      ∃ e, result = .error e) ∨
    ∃ url r reply, propertiesUrl c.config = .ok url ∧ url.isWeb = true ∧
      r.SentTo url .get c.authorization .empty ∧ given = [⟨r, reply⟩] ∧
      ((∃ p, reply.properties? = some p ∧ result = .ok p) ∨
        reply.properties? = none ∧ ∃ e, result = .error e) := by
  rw [properties] at trace
  cases address : propertiesUrl c.config with
  | error e =>
    rw [address] at trace
    cases trace
    exact .inl ⟨fun _ => nofun, rfl, _, rfl⟩
  | ok url =>
    rw [address] at trace
    rcases Exchange.trace_of_ask trace with ⟨other, none_asked, failed⟩ | ⟨web, reply, asked, read⟩
    · rw [request, Request.isWeb_ofClient] at other
      exact .inl ⟨fun _ found => Except.ok.inj found ▸ other, none_asked, failed⟩
    · rw [request, Request.isWeb_ofClient] at web
      exact .inr ⟨url, _, reply, rfl, web, Request.ofClient_sentTo .get url c.authorization .empty,
        asked, read ▸ received_properties _ reply⟩

theorem connect_trace {result : Except ClientError Client}
    (trace : Trace (connect config) given result) : Connects config given result := by
  rcases Exchange.trace_of_andThen trace with
    ⟨e, failed, rfl⟩ | ⟨token, first, rest, start, tail, rfl⟩
  · exact .unidentified (token_trace failed)
  · have identified := token_trace start
    rcases ofConfig_cases config token with ⟨authorization, fit, made⟩ | ⟨unfit, e, made⟩
    · rw [made] at tail
      rcases Exchange.trace_of_andThen tail with
        ⟨e, told, rfl⟩ | ⟨p, asked, none_asked, told, last, rfl⟩
      · rcases properties_trace told with ⟨nowhere, rfl, -⟩ |
          ⟨url, r, reply, address, web, sent, rfl, ⟨p, -, read⟩ | ⟨untold, -⟩⟩
        · rw [List.append_nil]
          exact .nowhere identified fit nowhere
        · cases read
        · exact .untold identified fit address web sent untold
      · cases last with
        | act _ last =>
          cases last
          rcases properties_trace told with ⟨-, -, e, read⟩ |
            ⟨url, r, reply, address, web, sent, rfl, ⟨p, found, read⟩ | ⟨-, e, read⟩⟩
          · cases read
          · cases read
            exact .told identified fit address web sent found
          · cases read
    · rw [made] at tail
      cases tail
      rw [List.append_nil]
      exact .unfit identified unfit

end Client

end CatalogMigration
