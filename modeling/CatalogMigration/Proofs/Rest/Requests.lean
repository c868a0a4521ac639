import CatalogMigration.Proofs.Client.Address
import CatalogMigration.Proofs.Rest.Creation
import CatalogMigration.Proofs.Text.Parts

namespace CatalogMigration

open Program

/-- A request that drops nothing and creates no table but the one of a name. -/
structure Request.Spares (table : String) (r : Request) : Prop where
  noDrop : r.method ≠ .delete
  creation : ∀ name schema, r.content = .table name schema → name = table

/-- A request of a client about the table of a name, below a path that all tables are below. -/
structure Request.About (front : List (List Char)) (table : String) (method : Method)
    (r : Request) : Prop where
  sender : r.sender = .client
  method : r.method = method
  content : r.content = .empty
  path : r.url.path = .segments (front ++ [table.toList])

namespace Url

def formDecode (cs : List Char) : List UInt8 := decode (cs.map fun c => if c = '+' then ' ' else c)

def pairOf (part : List Char) : List UInt8 × List UInt8 :=
  (formDecode (part.takeWhile (· ≠ '=')), formDecode ((part.dropWhile (· ≠ '=')).drop 1))

def pairs (u : Url) : List (List UInt8 × List UInt8) :=
  match u.query with
  | none | some [] => []
  | some q => (Text.splitOn '&' q).map pairOf

def purgePair (purge : Bool) : List UInt8 × List UInt8 :=
  (utf8 "purgeRequested".toList, utf8 (if purge then "true" else "false").toList)

/-- The query of an address carries the flag of a drop with this value. -/
def Carries (u : Url) (purge : Bool) : Prop := purgePair purge ∈ u.pairs

instance (u : Url) (purge : Bool) : Decidable (u.Carries purge) :=
  inferInstanceAs (Decidable (_ ∈ _))

theorem pairs_of_query {u : Url} {q : List Char} (query : u.query = some q) (some_char : q ≠ []) :
    u.pairs = (Text.splitOn '&' q).map pairOf := by
  rw [pairs, query]
  cases q with
  | nil => exact absurd rfl some_char
  | cons c cs => rfl

theorem pairOf_purge (purge : Bool) :
    pairOf ("purgeRequested=" ++ Text.truth purge).toList = purgePair purge := by
  cases purge <;> decide

end Url

namespace Client

def dropQuery (c : Client) (purge : Bool) : List Char :=
  (match c.config.catalogUrl.query with
    | none | some [] => []
    | some own => own ++ ['&']) ++ ("purgeRequested=" ++ Text.truth purge).toList

theorem withPair_query {c : Client} {url : Url} (same : url.query = c.config.catalogUrl.query)
    (purge : Bool) :
    (url.withPair "purgeRequested" (Text.truth purge)).query = some (c.dropQuery purge) := by
  rw [Url.withPair, dropQuery, same, ← formPair_purge]
  rcases c.config.catalogUrl.query with _ | _ | _ <;> simp

theorem dropQuery_pairs {c : Client} {url : Url} {purge : Bool}
    (query : url.query = some (c.dropQuery purge)) :
    url.pairs = c.config.catalogUrl.pairs ++ [Url.purgePair purge] := by
  generalize flag_eq : ("purgeRequested=" ++ Text.truth purge).toList = flag
  have clear : '&' ∉ flag := by rw [← flag_eq]; cases purge <;> decide
  have some_char : flag ≠ [] := by rw [← flag_eq]; cases purge <;> decide
  have last : (Text.splitOn '&' flag).map Url.pairOf = [Url.purgePair purge] := by
    rw [Text.splitOn_eq_singleton clear, List.map_singleton, ← flag_eq, Url.pairOf_purge]
  rw [dropQuery, flag_eq] at query
  cases own : c.config.catalogUrl.query with
  | none =>
    simp only [own, List.nil_append] at query
    rw [Url.pairs_of_query query some_char, last, Url.pairs, own, List.nil_append]
  | some own_query =>
    cases own_query with
    | nil =>
      simp only [own, List.nil_append] at query
      rw [Url.pairs_of_query query some_char, last, Url.pairs, own, List.nil_append]
    | cons d ds =>
      simp only [own, List.append_assoc, List.singleton_append] at query
      rw [Url.pairs_of_query query (by simp), Text.splitOn_append_cons, List.map_append, last,
        Url.pairs_of_query own (List.cons_ne_nil d ds)]

/-- A request of a client that drops the table of a name. -/
structure Drops (c : Client) (front : List (List Char)) (table : String) (purge : Bool)
    (r : Request) : Prop extends Request.About front table .delete r where
  query : r.url.query = some (c.dropQuery purge)

theorem Drops.carries_iff {c : Client} {front : List (List Char)} {table : String} {purge : Bool}
    {r : Request} (drops : c.Drops front table purge r) (flag : Bool) :
    r.url.Carries flag ↔ flag = purge ∨ c.config.catalogUrl.Carries flag := by
  have alone : Url.purgePair flag = Url.purgePair purge ↔ flag = purge := by
    cases flag <;> cases purge <;> decide
  rw [Url.Carries, dropQuery_pairs drops.query, List.mem_append, List.mem_singleton, alone, or_comm]
  rfl

/-- The table of a name has an address of the web below a path. -/
def Reaches (c : Client) (front : List (List Char)) (space table : String) : Prop :=
  ∃ url, c.tableUrl space table = .ok url ∧ url.isWeb = true ∧
    url.path = .segments (front ++ [table.toList]) ∧ url.query = c.config.catalogUrl.query

end Client

namespace RestSession

variable {P : Request → Prop} {α β : Type} {front : List (List Char)} {space : String} {t : Fixture}
  {s s' : RestSession} {given : List ((_ : Request) × Reply)}

namespace Step

theorem bind_only {m : Step α} {f : α → Step β} (first : ∀ engine, Only P (m engine))
    (rest : ∀ a engine, Only P (f a engine)) (engine : Engine) : Only P ((m >>= f) engine) := by
  rw [bind_eq]
  refine (first engine).bind fun found => ?_
  obtain ⟨_ | a, engine⟩ := found
  · exact .done _
  · exact rest a engine

theorem ofResult_only (r : Except SessionError α) (engine : Engine) :
    Only P (ofResult r engine) := .done _

theorem ofClient_only {p : Exchange (Except ClientError α)} (only : Only P p) (engine : Engine) :
    Only P (ofClient p engine) := by
  refine only.bind fun found => ?_
  cases found <;> exact .done _

theorem ofEngine_only {op : EngineLink → Exchange (Except EngineFault α)}
    (learning : ∀ r : Request, r.sender = .engine → r.method = .get ∧ r.content = .empty ∨
      r.method = .post ∧ (∃ pairs, r.content = .form pairs) → P r)
    (only : ∀ l, Only P (op l)) (engine : Engine) : Only P (ofEngine op engine) := by
  rw [ofEngine_eq]
  refine (engine.linking_only learning).bind fun found => ?_
  cases found with
  | error f => exact .done _
  | ok l =>
    refine (only l).bind fun r => ?_
    cases r <;> exact .done _

theorem ofEngine_spares {table : String} {op : EngineLink → Exchange (Except EngineFault α)}
    (only : ∀ l, Only (Request.Spares table) (op l)) (engine : Engine) :
    Only (Request.Spares table) (ofEngine op engine) := by
  refine ofEngine_only (fun r _ kind => ?_) only engine
  rcases kind with ⟨method, content⟩ | ⟨method, pairs, content⟩ <;>
    exact ⟨by simp [method], by simp [content]⟩

end Step

theorem bounded_only {operation : String} {step : Step α} (only : ∀ engine, Only P (step engine))
    (s : RestSession) : Only P (bounded operation step s) :=
  (only s.engine).bind fun _ => .done _

theorem tableExists_spares (c : Client) (space table name : String) :
    Only (Request.Spares name) (c.tableExists space table) := by
  rcases c.nowhere_or space table with nowhere | ⟨url, address, web⟩
  · obtain ⟨e, none⟩ := Client.tableExists_of_nowhere nowhere
    rw [none]
    exact .done _
  · rw [Client.tableExists_of_web address web]
    obtain ⟨-, method, content, -⟩ := Client.request_parts c .head url
    exact .call ⟨by simp [method], by simp [content]⟩ fun _ => .done _

theorem load_spares (c : Client) (space : String) (t : Fixture) (engine : Engine) :
    Only (Request.Spares t.name) (load c space t engine) := by
  refine Step.bind_only (Step.ofClient_only (tableExists_spares ..)) (fun found engine => ?_) engine
  cases found with
  | false => exact Step.ofResult_only _ _
  | true =>
    exact Step.ofEngine_spares (fun l => EngineLink.ask_only _ fun r _ method content =>
      ⟨by simp [method], by simp [content]⟩) engine

theorem append_spares (space : String) (t : Fixture) (rows : List Row) (s : RestSession) :
    Only (Request.Spares t.name) (answer (.append space t rows) s) := by
  refine bounded_only (fun engine => ?_) s
  refine Step.bind_only (load_spares s.client space t) (fun table engine => ?_) engine
  refine Step.bind_only (Step.ofResult_only _) (fun batch engine => ?_) engine
  refine Step.ofEngine_spares (fun l => ?_) engine
  rw [EngineLink.commit]
  split
  · exact .done _
  · exact EngineLink.ask_only _ fun r _ method content => ⟨by simp [method], by simp [content]⟩

theorem scan_spares (space : String) (t : Fixture) (s : RestSession) :
    Only (Request.Spares t.name) (answer (.scan space t) s) :=
  bounded_only (Step.bind_only (load_spares s.client space t) fun _ => Step.ofResult_only _) s

theorem place_spares (space : String) (t : Fixture) (s : RestSession) :
    Only (Request.Spares t.name) (place space t s) := by
  refine bounded_only (fun engine => ?_) s
  refine Step.bind_only (Step.ofResult_only _) (fun schema engine => ?_) engine
  refine Step.ofEngine_spares (fun l => EngineLink.ask_only _ fun r _ method content => ?_) engine
  exact ⟨by simp [method], fun name schema found => by rw [content] at found; cases found; rfl⟩

theorem client_of_trace {c : SessionCall} {r : c.Answer}
    (trace : Trace (answer c s) given (r, s')) : s'.client = s.client := by
  cases c <;>
  · obtain ⟨_, _, _, _, finish, _⟩ := trace.of_bind
    cases finish
    rfl

/-- What is sent to create a table that has an address. It is purged first just when it is found. -/
inductive CreateTurn (c : Client) (front : List (List Char)) (table : String) :
    List ((_ : Request) × Reply) → Prop
  | unfound {check : Request} {reply : Reply} {rest : List ((_ : Request) × Reply)}
    (checked : check.About front table .head) (unfound : reply.succeeds = false)
    (spared : ∀ x ∈ rest, Request.Spares table x.1) :
    CreateTurn c front table (⟨check, reply⟩ :: rest)
  | purged {check drop : Request} {reply dropReply : Reply} {rest : List ((_ : Request) × Reply)}
    (checked : check.About front table .head) (found : reply.succeeds = true)
    (dropped : c.Drops front table true drop) (spared : ∀ x ∈ rest, Request.Spares table x.1) :
    CreateTurn c front table (⟨check, reply⟩ :: ⟨drop, dropReply⟩ :: rest)

theorem CreateTurn.append {c : Client} {table : String} {more : List ((_ : Request) × Reply)}
    (turn : CreateTurn c front table given) (spared : ∀ x ∈ more, Request.Spares table x.1) :
    CreateTurn c front table (given ++ more) := by
  cases turn with
  | unfound checked unfound spared' =>
    exact .unfound checked unfound (List.forall_mem_append.mpr ⟨spared', spared⟩)
  | purged checked found dropped spared' =>
    exact .purged checked found dropped (List.forall_mem_append.mpr ⟨spared', spared⟩)

theorem about_request (c : Client) (method : Method) {url : Url} {table : String}
    (path : url.path = .segments (front ++ [table.toList])) :
    (c.request method url).About front table method := by
  obtain ⟨sender, same, content, samePath, -⟩ := Client.request_parts c method url
  exact ⟨sender, same, content, samePath.trans path⟩

theorem drops_request (c : Client) {url : Url} {table : String} (purge : Bool)
    (path : url.path = .segments (front ++ [table.toList]))
    (query : url.query = c.config.catalogUrl.query) :
    c.Drops front table purge (c.dropRequest url purge) := by
  refine ⟨about_request c .delete path, ?_⟩
  rw [Client.dropRequest, (Client.request_parts ..).2.2.2.2.1, Client.withPair_query query]

theorem create_trace {r : Except SessionError Unit}
    (reaches : s.client.Reaches front space t.name)
    (trace : Trace (answer (.create space t) s) given (r, s')) :
    CreateTurn s.client front t.name given := by
  obtain ⟨url, address, web, path, query⟩ := reaches
  have checked := about_request s.client .head path
  have dropped := drops_request s.client true path query
  rw [answer_create_eq, Client.tableExists_of_web address web, Program.bind] at trace
  cases trace with
  | call reply rest =>
    rcases Client.existence_cases (s.client.request .head url).url reply with
      ⟨found, read⟩ | ⟨unfound, -, read⟩ | ⟨unfound, -, e, read⟩
    · simp only [Program.bind, read, Client.dropTable_of_web address web] at rest
      -- A line is logged between the check and the drop.
      obtain _ | _ | ⟨_, rest⟩ := rest
      obtain _ | ⟨dropReply, rest⟩ := rest
      refine .purged checked found dropped ?_
      rcases Client.dropped_cases space t.name (s.client.dropRequest url true).url dropReply with
        ⟨-, read⟩ | ⟨-, e, read⟩
      · simp only [read] at rest
        exact (place_spares space t s).trace rest
      · simp only [read] at rest
        cases rest
        simp
    · simp only [Program.bind, read] at rest
      exact .unfound checked unfound ((place_spares space t s).trace rest)
    · simp only [Program.bind, read] at rest
      cases rest
      exact .unfound checked unfound (by simp)

theorem create_trace_of_nowhere {r : Except SessionError Unit}
    (nowhere : s.client.Nowhere space t.name)
    (trace : Trace (answer (.create space t) s) given (r, s')) :
    given = [] ∧ ∃ e, r = .error e := by
  obtain ⟨e, none⟩ := Client.tableExists_of_nowhere nowhere
  rw [answer_create_eq, none] at trace
  cases trace
  exact ⟨rfl, _, rfl⟩

theorem drop_trace {mode : DropMode} {r : Except SessionError Unit}
    (reaches : s.client.Reaches front space t.name)
    (trace : Trace (answer (.drop space t mode) s) given (r, s')) :
    ∃ x, given = [x] ∧ s.client.Drops front t.name mode.isPurge x.1 := by
  obtain ⟨url, address, web, path, query⟩ := reaches
  obtain ⟨_, first, rest, start, finish, rfl⟩ := trace.of_bind
  cases finish
  rw [drop, Step.ofClient, Client.dropTable_of_web address web] at start
  obtain _ | ⟨reply, start⟩ := start
  have one := drops_request s.client mode.isPurge path query
  rcases Client.dropped_cases space t.name (s.client.dropRequest url mode.isPurge).url reply with
    ⟨-, read⟩ | ⟨-, e, read⟩ <;>
  · simp only [Program.bind, read] at start
    cases start
    exact ⟨_, rfl, one⟩

end RestSession

end CatalogMigration
