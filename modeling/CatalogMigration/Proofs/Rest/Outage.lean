import CatalogMigration.Proofs.Rest.Creation

namespace CatalogMigration

open Program

namespace Exchange

variable {α β ε : Type}

/-- Exchanges that end with a refused connection, and with what then. -/
inductive Breaks (Q : Request → α → Prop) : Exchange α → Prop
  | done (a : α) : Breaks Q (.done a)
  | call {r : Request} {next : Reply → Exchange α}
    (ends : ∃ a, next .refused = .done a ∧ Q r a) (rest : ∀ reply, Breaks Q (next reply)) :
    Breaks Q (.call r next)
  | act (b : Act) {p : Exchange α} (rest : Breaks Q p) : Breaks Q (.act b p)

variable {Q : Request → α → Prop} {Q' : Request → β → Prop} {p : Exchange α}

theorem Breaks.bind {f : α → Exchange β} (breaks : Breaks Q p)
    (through : ∀ r a, Q r a → ∃ b, f a = .done b ∧ Q' r b) (rest : ∀ a, Breaks Q' (f a)) :
    Breaks Q' (p.bind f) := by
  induction breaks with
  | done a => exact rest a
  | @call r next ends _ ih =>
    obtain ⟨a, last, holds⟩ := ends
    refine .call ?_ ih
    rw [last]
    exact through r a holds
  | act b _ ih => exact .act b ih

theorem Breaks.trace {before after : List ((_ : Request) × Reply)} {r : Request} {a : α}
    (breaks : Breaks Q p) (trace : Trace p (before ++ ⟨r, .refused⟩ :: after) a) :
    after = [] ∧ Q r a := by
  induction breaks generalizing before with
  | done b => cases before <;> cases trace
  | @call r' next ends _ ih =>
    obtain ⟨b, last, holds⟩ := ends
    cases before with
    | nil =>
      cases trace with
      | call _ rest =>
        rw [last] at rest
        cases rest
        exact ⟨rfl, holds⟩
    | cons first before =>
      cases trace with
      | call _ rest => exact ih _ rest
  | act b _ ih =>
    cases trace with
    | act _ rest => exact ih rest

/-- The error that a refused connection is for the one who asked. -/
def Fails (P : Request → Prop) (cause : Request → ε) (r : Request) (x : Except ε α) : Prop :=
  P r ∧ x = .error (cause r)

variable {P : Request → Prop} {cause : Request → ε}

theorem Breaks.andThen {p : Exchange (Except ε α)} {next : α → Exchange (Except ε β)}
    (breaks : Breaks (Fails P cause) p) (rest : ∀ a, Breaks (Fails P cause) (next a)) :
    Breaks (Fails P cause) (p.andThen next) := by
  refine breaks.bind ?_ fun found => ?_
  · rintro r _ ⟨holds, rfl⟩
    exact ⟨_, rfl, holds, rfl⟩
  · cases found with
    | error e => exact .done _
    | ok a => exact rest a

abbrev ClientBreaks (P : Request → Prop) : Exchange (Except ClientError α) → Prop :=
  Breaks (Fails (fun r => r.sender = .client ∧ P r) fun r => .http (.refused r.url))

/-- Requests of the engine, for which all that fails before a response is one. -/
abbrev EngineBreaks (P : Request → Prop) : Exchange (Except EngineFault α) → Prop :=
  Breaks (Fails (fun r => r.sender = .engine ∧ P r) fun _ => .request)

end Exchange

open Exchange

variable {α β : Type} {P : Request → Prop}

namespace EngineLink

theorem ask_breaks {l : EngineLink} {method : Method} {address : String} {content : Content}
    (read : Nat → Body → Except EngineFault α)
    (holds : ∀ r : Request, r.sender = .engine → r.method = method → P r) :
    EngineBreaks P (l.ask method address content read) := by
  rw [ask]
  split
  · exact .done _
  · split
    · exact .done _
    · rw [exchange]
      split
      · refine .call ⟨_, rfl, ⟨rfl, holds _ rfl rfl⟩, rfl⟩ fun reply => ?_
        cases reply <;> exact .done _
      · exact .done _

theorem establish_breaks {p : EngineProperties}
    (holds : ∀ r : Request, r.sender = .engine → r.method = .get ∨ r.method = .post → P r) :
    EngineBreaks P (establish p) := by
  refine Breaks.andThen ?_ fun token => Breaks.andThen ?_ fun _ => .done _
  · rw [obtainToken]
    split
    · exact .done _
    · exact .done _
    · exact ask_breaks _ fun r sender method => holds r sender (.inr method)
  · exact ask_breaks _ fun r sender method => holds r sender (.inl method)

end EngineLink

namespace Client

theorem ask_breaks {r : Request} (sender : r.sender = .client) (holds : P r)
    (read : Nat → String → Except ClientError α) : ClientBreaks P (Exchange.ask r read) := by
  rw [Exchange.ask]
  split
  · refine .call ⟨_, rfl, ⟨sender, holds⟩, rfl⟩ fun reply => ?_
    cases reply <;> exact .done _
  · exact .done _

theorem tableExists_breaks (c : Client) (space table : String)
    (holds : ∀ r : Request, r.sender = .client → r.method = .head → P r) :
    ClientBreaks P (c.tableExists space table) := by
  rw [tableExists]
  split
  · exact .done _
  · obtain ⟨sender, method, -⟩ := request_parts c .head ‹_›
    exact ask_breaks sender (holds _ sender method) _

theorem dropTable_breaks (c : Client) (space table : String) (purge : Bool)
    (holds : ∀ r : Request, r.sender = .client → r.method = .delete → P r) :
    ClientBreaks P (c.dropTable space table purge) := by
  rw [dropTable]
  split
  · exact .done _
  · obtain ⟨sender, method, -⟩ := request_parts c .delete ‹_›
    exact ask_breaks sender (holds _ sender method) _

end Client

namespace RestSession

def refusal (r : Request) : Interruption :=
  match r.sender with
  | .client => .client (.http (.refused r.url))
  | .engine => .engine .request

def StepBreaks (P : Request → Prop) (m : Step α) : Prop :=
  ∀ engine, Breaks (fun r x => Fails P refusal r x.1) (m engine)

namespace StepBreaks

theorem bind {m : Step α} {f : α → Step β} (first : StepBreaks P m)
    (rest : ∀ a, StepBreaks P (f a)) : StepBreaks P (m >>= f) := by
  intro engine
  rw [Step.bind_eq]
  refine (first engine).bind ?_ fun found => ?_
  · rintro r ⟨_, engine⟩ ⟨holds, rfl⟩
    exact ⟨_, rfl, holds, rfl⟩
  · obtain ⟨_ | a, engine⟩ := found
    · exact .done _
    · exact rest a engine

theorem ofResult (r : Except SessionError α) : StepBreaks P (Step.ofResult r) :=
  fun _ => .done _

theorem log (message : String) : StepBreaks P (Step.log message) := fun _ => .act _ (.done _)

theorem ofClient {p : Exchange (Except ClientError α)} (breaks : ClientBreaks P p) :
    StepBreaks P (Step.ofClient p) := by
  intro engine
  refine breaks.bind ?_ fun found => by cases found <;> exact .done _
  rintro r _ ⟨⟨sender, holds⟩, rfl⟩
  exact ⟨_, rfl, holds, by rw [refusal, sender]⟩

theorem ofEngine {op : EngineLink → Exchange (Except EngineFault α)}
    (learning : ∀ r : Request, r.sender = .engine → r.method = .get ∨ r.method = .post → P r)
    (breaks : ∀ l, EngineBreaks P (op l)) : StepBreaks P (Step.ofEngine op) := by
  intro engine
  have linking : EngineBreaks P engine.linking := by
    rw [Engine.linking]
    split
    · exact .done _
    · exact EngineLink.establish_breaks learning
  rw [Step.ofEngine_eq]
  refine linking.bind ?_ fun found => ?_
  · rintro r _ ⟨⟨sender, holds⟩, rfl⟩
    exact ⟨_, rfl, holds, by rw [refusal, sender]⟩
  cases found with
  | error f => exact .done _
  | ok l =>
    refine (breaks l).bind ?_ fun r => by cases r <;> exact .done _
    rintro r _ ⟨⟨sender, holds⟩, rfl⟩
    exact ⟨_, rfl, holds, by rw [refusal, sender]⟩

end StepBreaks

def refusalError (r : Request) : SessionError :=
  match r.sender with
  | .client => .unreachable (ClientError.http (.refused r.url)).message
  | .engine => .catalog EngineFault.request.message

theorem bounded_breaks {operation : String} {step : Step α} (breaks : StepBreaks P step)
    (s : RestSession) :
    Breaks (fun r x => Fails P refusalError r x.1) (bounded operation step s) := by
  refine (breaks s.engine).bind ?_ fun _ => .done _
  rintro r ⟨_, engine⟩ ⟨holds, rfl⟩
  refine ⟨_, rfl, holds, ?_⟩
  -- A refused connection is known at once, so no limit matters.
  rw [refusal, refusalError]
  cases r.sender <;> cases s.operationTimeout <;> rfl

section Calls

variable (client : ∀ r : Request, r.sender = .client → r.method = .head ∨ r.method = .delete → P r)
  (engine : ∀ r : Request, r.sender = .engine → r.method = .get ∨ r.method = .post → P r)

include client engine

theorem load_breaks (c : Client) (space : String) (t : Fixture) :
    StepBreaks P (load c space t) := by
  have found := c.tableExists_breaks space t.name fun r sender method =>
    client r sender (.inl method)
  refine .bind (.ofClient found) fun found => ?_
  split
  · exact .ofEngine engine fun l =>
      EngineLink.ask_breaks _ fun r sender method => engine r sender (.inl method)
  · exact .ofResult _

theorem create_breaks (c : Client) (space : String) (t : Fixture) :
    StepBreaks P (create c space t) := by
  have found := c.tableExists_breaks space t.name fun r sender method =>
    client r sender (.inl method)
  have purged := c.dropTable_breaks space t.name true fun r sender method =>
    client r sender (.inr method)
  have placed : StepBreaks P (do
      let schema ← Step.ofResult (storedSchema t.schema)
      Step.ofEngine (·.createTable (levels space) t.name schema)) :=
    .bind (.ofResult _) fun schema => .ofEngine engine fun l =>
      EngineLink.ask_breaks _ fun r sender method => engine r sender (.inr method)
  refine .bind (.ofClient found) fun found => ?_
  split
  · exact .bind (.log _) fun _ => .bind (.ofClient purged) fun _ => placed
  · exact placed

theorem append_breaks (c : Client) (space : String) (t : Fixture) (rows : List Row) :
    StepBreaks P (append c space t rows) := by
  refine .bind (load_breaks client engine c space t) fun table => ?_
  refine .bind (.ofResult _) fun batch => .ofEngine engine fun l => ?_
  rw [EngineLink.commit]
  split
  · exact .done _
  · exact EngineLink.ask_breaks _ fun r sender method => engine r sender (.inr method)

end Calls

def fromClient : SessionCall → Method → Bool
  | .ensureNamespace _, _ => false
  | _, .head | _, .delete => true
  | _, .get | _, .post => false

theorem answer_breaks (c : SessionCall) (s : RestSession) :
    Breaks (fun r x => Fails (fun r => r.sender = .client ↔ fromClient c r.method = true)
      refusalError r x.1) (answer c s) := by
  have engine (r : Request) (sender : r.sender = .engine)
      (method : r.method = .get ∨ r.method = .post) :
      r.sender = .client ↔ fromClient c r.method = true := by
    rcases method with method | method <;> cases c <;> simp [sender, method, fromClient]
  have client (tables : ∀ space, c ≠ .ensureNamespace space) (r : Request)
      (sender : r.sender = .client) (method : r.method = .head ∨ r.method = .delete) :
      r.sender = .client ↔ fromClient c r.method = true := by
    rcases method with method | method <;> cases c <;> simp_all [fromClient]
  cases c with
  | ensureNamespace space =>
    have engine (r : Request) (sender : r.sender = .engine) :
        r.sender = .client ↔ fromClient (.ensureNamespace space) r.method = true := by
      simp [sender, fromClient]
    refine bounded_breaks (.bind (.ofEngine (fun r sender _ => engine r sender) fun l =>
      EngineLink.ask_breaks _ fun r sender _ => engine r sender) fun known => ?_) s
    split
    · exact fun _ => .done _
    · exact .bind (.ofEngine (fun r sender _ => engine r sender) fun l =>
        EngineLink.ask_breaks _ fun r sender _ => engine r sender) fun _ => .log _
  | create space t => exact bounded_breaks (create_breaks (client nofun) engine s.client space t) s
  | append space t rows =>
    exact bounded_breaks (append_breaks (client nofun) engine s.client space t rows) s
  | scan space t =>
    exact bounded_breaks
      (.bind (load_breaks (client nofun) engine s.client space t) fun _ => .ofResult _) s
  | drop space t mode =>
    exact bounded_breaks (.ofClient (s.client.dropTable_breaks space t.name mode.isPurge
      fun r sender method => client nofun r sender (.inr method))) s

variable {c : SessionCall} {s s' : RestSession} {before after : List ((_ : Request) × Reply)}
  {r : Request} {result : c.Answer}

/-- A refused connection ends a call. The call tells of an unreachable catalog just when the client
asked; when the engine asked, it is a fault of the catalog. -/
theorem refused_unreachable_iff_client
    (trace : Trace (answer c s) (before ++ ⟨r, .refused⟩ :: after) (result, s')) :
    after = [] ∧ (fromClient c r.method = true ↔ r.sender = .client) ∧
      result = .error (match r.sender with
        | .client => .unreachable (ClientError.http (.refused r.url)).message
        | .engine => .catalog "Unexpected => Failed to execute http request") := by
  obtain ⟨last, sender, ends⟩ := (answer_breaks c s).trace trace
  exact ⟨last, sender.symm, ends⟩

/-- The catalog is gone when a table that was found is to be purged. -/
theorem purge_refused :
    let t : Fixture := ⟨"my_table_0", .maintained, ⟨[⟨"id", .long, true⟩]⟩⟩
    let url := localUrl ["v1", "namespaces", "my_namespace", "tables", "my_table_0"] none
    let check := localSession.client.request .head url
    let drop := localSession.client.dropRequest url true
    ∃ result, Trace (answer (.create "my_namespace" t) localSession)
        ([⟨check, .response 204 (.text "")⟩] ++ ⟨drop, .refused⟩ :: []) (result, localSession) ∧
      result = .error (.unreachable ("HTTP request failed: error sending request for url " ++
        "(http://[::1]:8181/catalog/v1/namespaces/my_namespace/tables/my_table_0" ++
        "?purgeRequested=true)")) := by
  intro t url check drop
  have address : localSession.client.tableUrl "my_namespace" t.name = .ok url := by decide +kernel
  have web : url.isWeb = true := by decide +kernel
  have trace : Trace (answer (.create "my_namespace" t) localSession)
      ([⟨check, .response 204 (.text "")⟩] ++ ⟨drop, .refused⟩ :: [])
      (.error (localSession.abandoned (.http (.refused drop.url))), localSession) := by
    rw [answer_create_eq, Client.tableExists_of_web address web]
    simp only [Client.dropTable_of_web address web]
    exact .call _ (.act _ (.call _ (.done _)))
  obtain ⟨-, -, ends⟩ := refused_unreachable_iff_client trace
  exact ⟨_, trace, ends.trans (by decide +kernel)⟩

/-- A new session that makes sure of its namespace takes an outage for a fault of the catalog. -/
theorem outage_of_engine_unseen :
    let call := answer (.ensureNamespace "my_namespace") localSession
    (call.outcome Network.down ⟨0⟩ ()).result.1 =
      .error (.catalog "Unexpected => Failed to execute http request") := by
  decide +kernel

end RestSession

end CatalogMigration
