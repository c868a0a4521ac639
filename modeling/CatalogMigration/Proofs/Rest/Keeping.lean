import CatalogMigration.Proofs.Client.Life
import CatalogMigration.Proofs.Rest.Creation
import CatalogMigration.Proofs.Rest.Namespace
import CatalogMigration.Proofs.Session.Ensures
import CatalogMigration.Proofs.Table.Layout
import Mathlib.Logic.Function.Basic

namespace CatalogMigration

open Program

/-- A namespace as a catalog keeps it: whether it is known, and its live tables by name. -/
structure KeptSpace where
  known : Bool
  tables : String → Option StoredTable

def KeptSpace.put (v : KeptSpace) (table : String) (t : Option StoredTable) : KeptSpace :=
  { v with tables := Function.update v.tables table t }

namespace Assoc

variable {ν : Type} (m : Assoc TableKey ν) (space name table : String)

theorem get?_insert_table (x : ν) : (m.insert ⟨space, name⟩ x).get? ⟨space, table⟩ =
    if table = name then some x else m.get? ⟨space, table⟩ := by
  simp [get?_insert]

theorem get?_erase_table : (m.erase ⟨space, name⟩).get? ⟨space, table⟩ =
    if table = name then none else m.get? ⟨space, table⟩ := by
  simp [get?_erase]

end Assoc

theorem related_ends {α β : Type} {R : α → β → Prop} {a : Option α} {b : Option β}
    (related : Option.Rel R a b) :
    a = none ∧ b = none ∨ ∃ x y, a = some x ∧ b = some y ∧ R x y := by
  cases related with
  | none => exact .inl ⟨rfl, rfl⟩
  | some same => exact .inr ⟨_, _, rfl, rfl, same⟩

theorem KeptSpace.put_related {α : Type} {R : α → StoredTable → Prop} {v : KeptSpace}
    {before after : String → Option α}
    (related : ∀ table, Option.Rel R (before table) (v.tables table))
    {name : String} {a : Option α} {b : Option StoredTable} (same : Option.Rel R a b)
    (changed : ∀ table, after table = if table = name then a else before table) (table : String) :
    Option.Rel R (after table) ((v.put name b).tables table) := by
  rw [changed]
  show Option.Rel R _ (Function.update v.tables name b table)
  rw [Function.update_apply]
  split
  · exact same
  · exact related table

def Client.tablesBytes (c : Client) (space : String) : List (List UInt8) :=
  match c.config.catalogUrl.path with
  | .opaquePath _ => []
  | .segments base => (Url.held (c.tablesPath space base)).map Url.decode

structure Batch.Holds (b : Batch) (schema : TableSchema) (rows : List Row) : Prop where
  laid : ∃ s : FieldSchema, s.toSchema = schema ∧ b.fields = s.fields.map FieldSchema.batchField
  read : b.rows = .ok rows
  counted : b.rowCount = rows.length

namespace Reply

theorem of_succeeds {reply : Reply} (succeeds : reply.succeeds = true) :
    ∃ status body, reply = .response status body ∧ Status.isSuccess status = true := by
  cases reply with
  | response status body => exact ⟨status, body, rfl, succeeds⟩
  | closed | silent | refused => cases succeeds

theorem of_misses {reply : Reply} (misses : reply.misses = true) :
    ∃ body, reply = .response 404 body := by
  cases reply with
  | response status body => exact ⟨body, by rw [beq_iff_eq.mp misses]⟩
  | closed | silent | refused => cases misses

end Reply

namespace RestSession

variable {σ : Type} {host : Host Request (fun _ => Reply) σ} {keeps : σ → KeptSpace → Prop}
  {space : String}

structure AtTable (c : Client) (space table : String) (method : Method) (r : Request) : Prop where
  later : c.Later r
  method : r.method = method
  path : r.url.segmentBytes = c.tablesBytes space ++ [Url.utf8 table.toList]

/-- A catalog that tells a client truly whether a table is there, and takes it away when asked. -/
structure Serving (host : Host Request (fun _ => Reply) σ) (keeps : σ → KeptSpace → Prop)
    (space : String) (c : Client) : Prop where
  web : c.config.catalogUrl.isWeb = true
  base : ∃ base, c.config.catalogUrl.path = .segments base
  checked : ∀ r table now s v, keeps s v → AtTable c space table .head r →
    keeps (host r now s).2.1 v ∧
    match v.tables table with
    | some _ => (host r now s).1.succeeds = true
    | none => (host r now s).1.misses = true
  dropped : ∀ r table now s v, keeps s v → AtTable c space table .delete r →
    match v.tables table with
    | some _ => (host r now s).1.succeeds = true ∧ keeps (host r now s).2.1 (v.put table none)
    | none => (host r now s).1.misses = true ∧ keeps (host r now s).2.1 v

/-- An engine that does to the tables of a catalog what it is asked for, and tells what is in them,
rows perhaps in another order. -/
structure Faithful (host : Host Request (fun _ => Reply) σ) (keeps : σ → KeptSpace → Prop)
    (space : String) (l : EngineLink) : Prop where
  checks : ∀ s v, keeps s v → Ensures host (l.spaceExists (levels space)) s fun r s' =>
    r = .ok v.known ∧ keeps s' v
  makes : ∀ s v, keeps s v → v.known = false →
    Ensures host (l.createSpace (levels space)) s fun r s' =>
      r = .ok () ∧ keeps s' { v with known := true }
  creates : ∀ (table : String) (schema : FieldSchema) s v, Url.Simple table.toList → keeps s v →
    v.known = true → v.tables table = none →
    Ensures host (l.createTable (levels space) table schema) s fun r s' =>
      r = .ok () ∧ keeps s' (v.put table (some ⟨schema.toSchema, []⟩))
  loads : ∀ (table : String) t s v, Url.Simple table.toList → keeps s v → v.tables table = some t →
    Ensures host (l.loadTable (levels space) table) s fun r s' =>
      keeps s' v ∧ ∃ found rows, r = .ok found ∧ found.schema.toSchema = t.schema ∧
        committedRows found.commits = .ok rows ∧ rows.Perm t.rows
  commits : ∀ (table : String) t (batch : Batch) rows s v, Url.Simple table.toList → keeps s v →
    v.tables table = some t → batch.Holds t.schema rows → rows ≠ [] →
    Ensures host (l.commit (levels space) table batch) s fun r s' =>
      r = .ok () ∧ keeps s' (v.put table (some ⟨t.schema, t.rows ++ rows⟩))

def Learns (host : Host Request (fun _ => Reply) σ) (keeps : σ → KeptSpace → Prop) (space : String)
    (e : Engine) : Prop :=
  ∀ s v, keeps s v → Ensures host e.linking s fun r s' =>
    keeps s' v ∧ ∃ l, r = .ok l ∧ Faithful host keeps space l

theorem Faithful.learns {l : EngineLink} (faithful : Faithful host keeps space l) (e : Engine) :
    Learns host keeps space (e.linked l) :=
  fun _ _ kept => .done ⟨kept, l, rfl, faithful⟩

/-- A session whose client a catalog serves and whose engine learns to be faithful to it. -/
structure Attended (host : Host Request (fun _ => Reply) σ) (keeps : σ → KeptSpace → Prop)
    (space : String) (s : RestSession) : Prop where
  client : Serving host keeps space s.client
  engine : Learns host keeps space s.engine

section Client

variable {c : Client} {table : String}

theorem Serving.address (serving : Serving host keeps space c)
    (simple : Url.Simple table.toList) :
    ∃ url, c.tableUrl space table = .ok url ∧ url.isWeb = true ∧
      url.segmentBytes = c.tablesBytes space ++ [Url.utf8 table.toList] := by
  obtain ⟨base, path⟩ := serving.base
  have notFile := (Url.IsHttp.of_web serving.web).not_file
  refine ⟨_, Client.tableUrl_of_plain notFile path space simple.plain, serving.web, ?_⟩
  rw [Url.segmentBytes, Client.tablesBytes, path]
  simp only [List.map_append, List.map_singleton,
    Url.decode_encode (Url.percent_mem_segmentSet c.config.catalogUrl.scheme)]

theorem atTable {url address : Url} {method : Method} (found : c.tableUrl space table = .ok url)
    (web : url.isWeb = true)
    (path : url.segmentBytes = c.tablesBytes space ++ [Url.utf8 table.toList])
    (there : address = { url with query := address.query })
    (asks : method = .head ∨ method = .delete) :
    AtTable c space table method (c.request method address) := by
  obtain ⟨-, same, -, place, -⟩ := Client.request_parts c method address
  refine ⟨Client.later_request found web there asks, same, ?_⟩
  rw [← path, Url.segmentBytes, Url.segmentBytes, place, there]

theorem tableExists_ensures (serving : Serving host keeps space c)
    (simple : Url.Simple table.toList) {s : σ} {v : KeptSpace} (kept : keeps s v) :
    Ensures host (c.tableExists space table) s fun r s' =>
      r = .ok (v.tables table).isSome ∧ keeps s' v := by
  obtain ⟨url, found, web, path⟩ := serving.address simple
  rw [Client.tableExists_of_web found web]
  refine .call fun now => .done ?_
  obtain ⟨still, told⟩ := serving.checked (c.request .head url) table now s v kept
    (atTable found web path rfl (.inl rfl))
  refine ⟨?_, still⟩
  cases live : v.tables table with
  | some t =>
    rw [live] at told
    obtain ⟨status, body, replied, success⟩ := Reply.of_succeeds told
    rw [replied, Exchange.received, Client.readExistence, if_pos success]
    rfl
  | none =>
    rw [live] at told
    obtain ⟨body, replied⟩ := Reply.of_misses told
    rw [replied]
    rfl

theorem dropTable_ensures (serving : Serving host keeps space c)
    (simple : Url.Simple table.toList) (purge : Bool) {s : σ} {v : KeptSpace} (kept : keeps s v) :
    Ensures host (c.dropTable space table purge) s fun r s' =>
      match v.tables table with
      | some _ => r = .ok () ∧ keeps s' (v.put table none)
      | none => r = .error (.tableNotFound (space ++ "." ++ table)) ∧ keeps s' v := by
  obtain ⟨url, found, web, path⟩ := serving.address simple
  rw [Client.dropTable_of_web found web]
  refine .call fun now => .done ?_
  have told := serving.dropped (c.dropRequest url purge) table now s v kept
    (atTable found web path rfl (.inr rfl))
  cases live : v.tables table with
  | some t =>
    rw [live] at told
    obtain ⟨status, body, replied, success⟩ := Reply.of_succeeds told.1
    refine ⟨?_, told.2⟩
    rw [replied, Exchange.received, Client.readDrop, if_pos success]
  | none =>
    rw [live] at told
    obtain ⟨body, replied⟩ := Reply.of_misses told.1
    refine ⟨?_, told.2⟩
    rw [replied]
    rfl

end Client

section Step

variable {α β : Type} {engine : Engine} {s : σ} {v : KeptSpace}

theorem Step.ofClient_ensures {p : Exchange (Except ClientError α)}
    {post : Except Interruption α × Engine → σ → Prop}
    (ends : Ensures host p s fun r t => post (r.mapError .client, engine) t) :
    Ensures host (Step.ofClient p engine) s post := by
  refine .bind (ends.mono ?_)
  rintro (e | a) t holds <;> exact .done holds

theorem Step.ofEngine_ensures {op : EngineLink → Exchange (Except EngineFault α)}
    {post : Except Interruption α × Engine → σ → Prop} (learns : Learns host keeps space engine)
    (kept : keeps s v)
    (ends : ∀ l e t, Faithful host keeps space l → Learns host keeps space e → keeps t v →
      Ensures host (op l) t fun r u => post (r.mapError .engine, e) u) :
    Ensures host (Step.ofEngine op engine) s post := by
  rw [Step.ofEngine_eq]
  refine .bind ((learns s v kept).mono ?_)
  rintro _ t ⟨kept, l, rfl, faithful⟩
  refine .bind ((ends l (engine.linked l) t faithful (faithful.learns engine) kept).mono ?_)
  rintro (f | a) u holds <;> exact .done holds

theorem Step.bind_ensures {m : Step α} {f : α → Step β}
    {post : Except Interruption β × Engine → σ → Prop}
    (first : Ensures host (m engine) s fun r t =>
      match r.1 with
      | .error i => post (.error i, r.2) t
      | .ok a => Ensures host (f a r.2) t post) : Ensures host ((m >>= f) engine) s post := by
  rw [Step.bind_eq]
  refine .bind (first.mono ?_)
  rintro ⟨_ | a, e⟩ t holds
  · exact .done holds
  · exact holds

theorem bounded_ensures {operation : String} {step : Step α} {session : RestSession}
    {post : Except SessionError α × RestSession → σ → Prop}
    (ends : Ensures host (step session.engine) s fun r t =>
      post (r.1.mapError (session.interrupted operation), { session with engine := r.2 }) t) :
    Ensures host (bounded operation step session) s post :=
  .bind (ends.mono fun _ _ holds => .done holds)

end Step

section Calls

variable {s : RestSession} {state : σ} {v : KeptSpace} {t : Fixture}

theorem Attended.resumed (attended : Attended host keeps space s) {e : Engine}
    (learns : Learns host keeps space e) : Attended host keeps space { s with engine := e } :=
  ⟨attended.client, learns⟩

theorem ensureNamespace_ensures (attended : Attended host keeps space s) (kept : keeps state v) :
    Ensures host (answer (.ensureNamespace space) s) state fun r after =>
      r.1 = .ok () ∧ Attended host keeps space r.2 ∧ keeps after { v with known := true } := by
  rw [answer_ensureNamespace_eq]
  refine .bind ((attended.engine state v kept).mono ?_)
  rintro _ later ⟨kept, l, rfl, faithful⟩
  have resumed := attended.resumed (faithful.learns s.engine)
  refine .bind ((faithful.checks later v kept).mono ?_)
  rintro _ checked ⟨rfl, kept⟩
  cases known : v.known with
  | true =>
    refine .done ⟨rfl, resumed, ?_⟩
    rwa [← known]
  | false =>
    refine .bind ((faithful.makes checked v kept known).mono ?_)
    rintro _ made ⟨rfl, kept⟩
    exact .act _ (.done ⟨rfl, resumed, kept⟩)

theorem storedSchema_fixture :
    ∃ schema, storedSchema .fixture = .ok schema ∧ schema.toSchema = .fixture :=
  ⟨_, rfl, rfl⟩

theorem place_ensures (attended : Attended host keeps space s) (simple : Url.Simple t.name.toList)
    (storable : t.schema = .fixture) (kept : keeps state v) (known : v.known = true)
    (free : v.tables t.name = none) :
    Ensures host (place space t s) state fun r after =>
      r.1 = .ok () ∧ Attended host keeps space r.2 ∧
        keeps after (v.put t.name (some ⟨t.schema, []⟩)) := by
  obtain ⟨schema, stored, same⟩ := storedSchema_fixture
  rw [storable, ← same]
  refine bounded_ensures (Step.bind_ensures ?_)
  rw [Step.ofResult, storable, stored]
  refine .done (Step.ofEngine_ensures attended.engine kept ?_)
  intro l e later faithful learns kept
  refine (faithful.creates t.name schema later v simple kept known free).mono ?_
  rintro _ after ⟨rfl, kept⟩
  exact ⟨rfl, attended.resumed learns, kept⟩

theorem create_ensures (attended : Attended host keeps space s) (simple : Url.Simple t.name.toList)
    (storable : t.schema = .fixture) (kept : keeps state v) (known : v.known = true) :
    Ensures host (answer (.create space t) s) state fun r after =>
      r.1 = .ok () ∧ Attended host keeps space r.2 ∧
        keeps after (v.put t.name (some ⟨t.schema, []⟩)) := by
  rw [answer_create_eq]
  refine .bind ((tableExists_ensures attended.client simple kept).mono ?_)
  rintro _ checked ⟨rfl, kept⟩
  cases live : v.tables t.name with
  | none => exact place_ensures attended simple storable kept known live
  | some old =>
    refine .act _ (.bind ((dropTable_ensures attended.client simple true kept).mono ?_))
    intro dropped after purged
    rw [live] at purged
    obtain ⟨rfl, kept⟩ := purged
    have free : (v.put t.name none).tables t.name = none := Function.update_self ..
    have again : (v.put t.name none).put t.name (some ⟨t.schema, []⟩) =
        v.put t.name (some ⟨t.schema, []⟩) := by
      rw [KeptSpace.put, KeptSpace.put, KeptSpace.put, Function.update_idem]
    exact again ▸ place_ensures attended simple storable kept known free

theorem interrupted_session (s : RestSession) (operation : String) (e : SessionError) :
    s.interrupted operation (.session e) = e := by
  unfold interrupted Interruption.error
  cases s.operationTimeout <;> rfl

theorem interrupted_missing (s : RestSession) (operation table : String) :
    s.interrupted operation (.client (.tableNotFound table)) = .notFound table := by
  unfold interrupted Interruption.error
  cases s.operationTimeout <;> rfl

theorem load_ensures (attended : Attended host keeps space s) (simple : Url.Simple t.name.toList)
    (kept : keeps state v) :
    Ensures host (load s.client space t s.engine) state fun r after =>
      Learns host keeps space r.2 ∧ keeps after v ∧
      match v.tables t.name with
      | none => r.1 = .error (.session (.notFound (space ++ "." ++ t.name)))
      | some stored => ∃ found rows, r.1 = .ok found ∧ found.schema.toSchema = stored.schema ∧
        committedRows found.commits = .ok rows ∧ rows.Perm stored.rows := by
  refine Step.bind_ensures (Step.ofClient_ensures
    ((tableExists_ensures attended.client simple kept).mono ?_))
  rintro _ checked ⟨rfl, kept⟩
  cases live : v.tables t.name with
  | none => exact .done ⟨attended.engine, kept, rfl⟩
  | some stored =>
    refine Step.ofEngine_ensures attended.engine kept ?_
    intro l e later faithful learns kept
    refine (faithful.loads t.name stored later v simple kept live).mono ?_
    rintro _ after ⟨kept, found, rows, rfl, schema, read, same⟩
    exact ⟨learns, kept, found, rows, rfl, schema, read, same⟩

theorem append_ensures (attended : Attended host keeps space s) (simple : Url.Simple t.name.toList)
    {rows : List Row} (some_row : rows ≠ []) (kept : keeps state v)
    (stored : ∀ old, v.tables t.name = some old → old.schema = .fixture) :
    Ensures host (answer (.append space t rows) s) state fun r after =>
      Attended host keeps space r.2 ∧
      match v.tables t.name with
      | none => r.1 = .error (.notFound (space ++ "." ++ t.name)) ∧ keeps after v
      | some old => r.1 = .ok () ∧
        keeps after (v.put t.name (some ⟨old.schema, old.rows ++ rows⟩)) := by
  refine bounded_ensures (Step.bind_ensures ((load_ensures attended simple kept).mono ?_))
  rintro ⟨loaded, e⟩ later ⟨learns, kept, told⟩
  cases live : v.tables t.name with
  | none =>
    rw [live] at told
    obtain rfl : loaded = _ := told
    exact ⟨attended.resumed learns, congrArg Except.error (interrupted_session ..), kept⟩
  | some old =>
    rw [live] at told
    obtain ⟨found, read, rfl, schema, -⟩ := told
    have fixture := schema.trans (stored old live)
    obtain ⟨laid, fields⟩ := FieldSchema.toBatch_of_fixture fixture rows
    refine Step.bind_ensures ?_
    rw [Step.ofResult, layout, laid]
    refine .done (Step.ofEngine_ensures learns kept ?_)
    intro l e last faithful learns kept
    have holds : Batch.Holds (FieldSchema.fixtureBatch rows) old.schema rows :=
      ⟨⟨found.schema, schema, fields⟩, FieldSchema.rows_fixtureBatch rows, rfl⟩
    refine (faithful.commits t.name old _ rows last v simple kept live holds some_row).mono ?_
    rintro _ after ⟨rfl, kept⟩
    exact ⟨attended.resumed learns, rfl, kept⟩

theorem scan_ensures (attended : Attended host keeps space s) (simple : Url.Simple t.name.toList)
    (shown : t.schema = .fixture) (kept : keeps state v)
    (stored : ∀ old, v.tables t.name = some old → old.schema = .fixture) :
    Ensures host (answer (.scan space t) s) state fun r after =>
      Attended host keeps space r.2 ∧ keeps after v ∧
      match v.tables t.name with
      | none => r.1 = .error (.notFound (space ++ "." ++ t.name))
      | some old => ∃ rows, r.1 = .ok ⟨old.schema, rows⟩ ∧ rows.Perm old.rows := by
  refine bounded_ensures (Step.bind_ensures ((load_ensures attended simple kept).mono ?_))
  rintro ⟨loaded, e⟩ after ⟨learns, kept, told⟩
  cases live : v.tables t.name with
  | none =>
    rw [live] at told
    obtain rfl : loaded = _ := told
    exact ⟨attended.resumed learns, kept, congrArg Except.error (interrupted_session ..)⟩
  | some old =>
    rw [live] at told
    obtain ⟨found, rows, rfl, schema, read, same⟩ := told
    have seen : observed t found = .ok ⟨old.schema, rows⟩ := by
      rw [observed, schema, stored old live, shown, if_pos rfl, read]
      rfl
    show Ensures host (Step.ofResult (observed t found) e) after _
    rw [Step.ofResult, seen]
    exact .done ⟨attended.resumed learns, kept, rows, rfl, same⟩

theorem drop_ensures (attended : Attended host keeps space s) (simple : Url.Simple t.name.toList)
    (mode : DropMode) (kept : keeps state v) :
    Ensures host (answer (.drop space t mode) s) state fun r after =>
      Attended host keeps space r.2 ∧
      match v.tables t.name with
      | none => r.1 = .error (.notFound (space ++ "." ++ t.name)) ∧ keeps after v
      | some _ => r.1 = .ok () ∧ keeps after (v.put t.name none) := by
  refine bounded_ensures (Step.ofClient_ensures
    ((dropTable_ensures attended.client simple mode.isPurge kept).mono ?_))
  intro dropped after told
  have resumed := attended.resumed attended.engine
  cases live : v.tables t.name with
  | none =>
    rw [live] at told
    obtain ⟨rfl, kept⟩ := told
    exact ⟨resumed, congrArg Except.error (interrupted_missing ..), kept⟩
  | some old =>
    rw [live] at told
    obtain ⟨rfl, kept⟩ := told
    exact ⟨resumed, rfl, kept⟩

end Calls

end RestSession

end CatalogMigration
