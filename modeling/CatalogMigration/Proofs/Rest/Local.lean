import CatalogMigration.Proofs.Rest.Keeping
import CatalogMigration.Proofs.Url.Reread

namespace CatalogMigration

open Program

theorem Server.segments_of_bytes {u : Url} {parts : List String}
    (bytes : u.segmentBytes = parts.map (Url.utf8 ·.toList)) : Server.segments u = parts := by
  rw [Url.segmentBytes] at bytes
  rw [Server.segments]
  cases path : u.path with
  | opaquePath text =>
    rw [path] at bytes
    exact (List.map_eq_nil_iff.mp bytes.symm).symm
  | segments texts =>
    rw [path] at bytes
    dsimp only at bytes ⊢
    clear path
    induction texts generalizing parts with
    | nil => exact (List.map_eq_nil_iff.mp bytes.symm).symm
    | cons text texts ih =>
      obtain ⟨part, rest, rfl, here, later⟩ := List.map_eq_cons_iff.mp bytes.symm
      rw [List.map_cons, ih later.symm, Url.decodeText?_of_decode here.symm, Option.getD_some,
        String.ofList_toList]

theorem EngineProperties.below_written {p : EngineProperties}
    (unprefixed : p.get? "prefix" = none) (segments : List String) :
    (p.below segments).toList =
      p.uri.toList ++ (UrlPath.segments (("v1" :: segments).map String.toList)).written := by
  rw [below, unprefixed, String.toList_intercalate, Url.written_segments (by simp),
    Text.joinedWith_eq]
  simp [List.intercalate_cons_cons]

namespace RestSession

theorem committedRows_append {commits : List Batch} {b : Batch} {rows more : List Row}
    (earlier : committedRows commits = .ok rows) (read : b.rows = .ok more) :
    committedRows (commits ++ [b]) = .ok (rows ++ more) := by
  induction commits generalizing rows with
  | nil =>
    cases earlier
    rw [List.nil_append, committedRows, read]
    exact congrArg Except.ok (List.append_nil more)
  | cons c commits ih =>
    rw [committedRows] at earlier
    rw [List.cons_append, committedRows]
    cases first : c.rows with
    | error e =>
      rw [first] at earlier
      cases earlier
    | ok front =>
      rw [first] at earlier
      cases behind : committedRows commits with
      | error e =>
        rw [behind] at earlier
        cases earlier
      | ok later =>
        rw [behind] at earlier
        cases earlier
        rw [ih behind]
        exact congrArg Except.ok (List.append_assoc front later more).symm

end RestSession

structure ServedTable.Holds (t : ServedTable) (stored : StoredTable) : Prop where
  schema : t.schema.toSchema = stored.schema
  rows : RestSession.committedRows t.commits = .ok stored.rows

namespace Server

structure Has (space : String) (s : Server) (v : KeptSpace) : Prop where
  unprefixed : s.pathPrefix = none
  known : v.known = true ↔ space ∈ s.spaces
  tables : ∀ table, Option.Rel ServedTable.Holds (s.tables.get? ⟨space, table⟩) (v.tables table)

theorem Has.put {space name : String} {s s' : Server} {v : KeptSpace} (has : s.Has space v)
    {a : Option ServedTable} {b : Option StoredTable} (same : Option.Rel ServedTable.Holds a b)
    (unprefixed : s'.pathPrefix = s.pathPrefix) (spaces : s'.spaces = s.spaces)
    (changed : ∀ table, s'.tables.get? ⟨space, table⟩ =
      if table = name then a else s.tables.get? ⟨space, table⟩) : s'.Has space (v.put name b) :=
  ⟨unprefixed.trans has.unprefixed, spaces ▸ has.known,
    KeptSpace.put_related has.tables same changed⟩

end Server

namespace RestSession

variable {rest : List String} {s : Server} {r : Request} {v : KeptSpace} {table : String}

theorem localUrl_canonical (simple : ∀ part ∈ rest, Url.Simple part.toList) :
    (localUrl rest none).Canonical where
  userinfo := ⟨List.forall_mem_nil _, nofun⟩
  host := ⟨_, rfl, .eightPieces rfl (by decide)⟩
  port := by
    rintro _ ⟨⟩
    have bounds : 8181 ≤ 65535 ∧ some 8181 ≠ Url.ownPort? "http".toList := by decide
    exact bounds
  path := by
    refine ⟨_, rfl, List.cons_ne_nil _ _, List.forall_mem_map.mpr ?_⟩
    refine List.forall_mem_cons.mpr ⟨Url.Simple.canonical (by decide), fun part member => ?_⟩
    exact (simple part member).canonical
  query := nofun
  fragment := nofun

theorem localLink_read (simple : ∀ part ∈ rest, Url.Simple part.toList) :
    Url.ofText (localLink.properties.below rest) = .ok (localUrl ("v1" :: rest) none) := by
  have simple : ∀ part ∈ "v1" :: rest, Url.Simple part.toList :=
    List.forall_mem_cons.mpr ⟨by decide, simple⟩
  have front : (localUrl [] none).written = localLink.properties.uri.toList := by decide +kernel
  have same : localLink.properties.below rest = (localUrl ("v1" :: rest) none).display := by
    refine String.toList_injective ?_
    rw [EngineProperties.below_written (by decide +kernel), ← front, Url.display,
      String.toList_ofList, Url.written_eq rfl, Url.written_eq rfl]
    simp [Url.marked, Url.credentials, UrlPath.written, localUrl]
  have own : (Url.ownPort? "http".toList).isSome = true := by decide
  rcases Url.ofText_display (localUrl_canonical simple) own with read | ⟨-, name, host, -⟩
  · rw [same, read]
  · cases host

theorem localUrl_segments (simple : ∀ part ∈ rest, Url.Simple part.toList) :
    Server.segments (localUrl rest none) = "catalog" :: rest := by
  refine Server.segments_of_bytes ?_
  show (("catalog" :: rest).map String.toList).map Url.decode = _
  rw [List.map_map]
  refine List.map_congr_left fun part member => ?_
  rcases List.mem_cons.mp member with rfl | member
  · decide
  · exact (simple part member).decode_eq

/-- A catalog at the address of local sessions, which asks nobody for a token. -/
def tablesHost : Host Request (fun _ => Reply) Server := Network localAddress fun r s =>
  if Server.segments r.url = Server.basePath ++ ["config"] then (s.properties, s) else s.routed r

structure Local (r : Request) (rest : List String) : Prop where
  reaches : r.reaches localAddress = true
  place : Server.segments r.url = Server.basePath ++ rest
  other : rest ≠ ["config"]

theorem Local.served (here : Local r rest) (now : Span) (s : Server) :
    tablesHost r now s = ((s.routed r).1.to r, (s.routed r).2, []) := by
  have other : Server.segments r.url ≠ Server.basePath ++ ["config"] := by
    rw [here.place]
    exact fun same => here.other (List.append_cancel_left same)
  rw [tablesHost, Network, if_pos here.reaches, if_neg other]

theorem Local.route (here : Local r rest) (unprefixed : s.pathPrefix = none) :
    s.route? r.url = some rest := by
  rw [Server.route?, unprefixed, here.place]
  show (if Server.basePath.isPrefixOf (Server.basePath ++ rest) then _ else _) = _
  rw [if_pos (List.isPrefixOf_iff_prefix.mpr (List.prefix_append _ _))]
  exact congrArg some List.drop_left

def localRequest (method : Method) (rest : List String) (content : Content) : Request :=
  ⟨.engine, method, localUrl ("v1" :: rest) none, none, content⟩

theorem localLink_asks (method : Method) (content : Content)
    (simple : ∀ part ∈ rest, Url.Simple part.toList) :
    localLink.request? method (localLink.properties.below rest) content =
      some (localRequest method rest content) := by
  rw [EngineLink.request?, localLink_read simple]
  rfl

theorem localRequest_local (method : Method) (content : Content)
    (simple : ∀ part ∈ rest, Url.Simple part.toList) (other : rest ≠ ["config"]) :
    Local (localRequest method rest content) rest where
  reaches := by
    have bare : (⟨.engine, .get, localUrl [] none, none, .empty⟩ : Request).reaches localAddress =
        true := by decide +kernel
    exact bare
  place := localUrl_segments (List.forall_mem_cons.mpr ⟨by decide, simple⟩)
  other := other

theorem AtTable.here {method : Method}
    (there : AtTable localSession.client "my_namespace" table method r) :
    Local r ["namespaces", "my_namespace", "tables", table] where
  reaches := by
    obtain ⟨scheme, host, port⟩ := there.later.server
    rw [Request.reaches, scheme, host, port]
    decide +kernel
  place := by
    refine Server.segments_of_bytes (there.path.trans ?_)
    have front : localSession.client.tablesBytes "my_namespace" =
        ["catalog", "v1", "namespaces", "my_namespace", "tables"].map (Url.utf8 ·.toList) := by
      decide +kernel
    rw [front]
    rfl
  other := by simp

theorem spaceName_local : Server.spaceName "my_namespace" = "my_namespace" := by decide +kernel

theorem localSession_serving :
    Serving tablesHost (Server.Has "my_namespace") "my_namespace" localSession.client where
  web := by decide +kernel
  base := ⟨_, rfl⟩
  checked r table now s v has there := by
    rw [there.here.served]
    simp only [Server.routed, there.method, there.here.route has.unprefixed, spaceName_local]
    rcases related_ends (has.tables table) with ⟨lost, missing⟩ | ⟨t, stored, found, live, -⟩
    · rw [lost, missing]
      exact ⟨has, rfl⟩
    · rw [found, live]
      exact ⟨has, rfl⟩
  dropped r table now s v has there := by
    rw [there.here.served]
    simp only [Server.routed, there.method, there.here.route has.unprefixed, spaceName_local,
      Server.dropTable]
    rcases related_ends (has.tables table) with ⟨lost, missing⟩ | ⟨t, stored, found, live, -⟩
    · rw [lost, missing]
      exact ⟨rfl, has⟩
    · rw [found, live]
      exact ⟨rfl, has.put .none rfl rfl fun name => s.tables.get?_erase_table _ _ _⟩

theorem localLink_ensures {α : Type} {method : Method} {content : Content}
    {read : Nat → Body → Except EngineFault α} {post : Except EngineFault α → Server → Prop}
    (simple : ∀ part ∈ rest, Url.Simple part.toList) (other : rest ≠ ["config"])
    (unprefixed : s.pathPrefix = none)
    (replied : ∀ r : Request, r.method = method → r.content = content →
      s.route? r.url = some rest →
      post (EngineLink.received read ((s.routed r).1.to r)) (s.routed r).2) :
    Ensures tablesHost (localLink.ask method (localLink.properties.below rest) content read) s
      post := by
  have here := localRequest_local method content simple other
  rw [EngineLink.ask_of_request (localLink_asks method content simple)]
  refine .call fun now => .done ?_
  rw [here.served]
  exact replied _ rfl rfl (here.route unprefixed)

theorem spaceText_local : EngineLink.spaceText (levels "my_namespace") = "my_namespace" := by
  decide +kernel

theorem tableParts_simple (simple : Url.Simple table.toList) :
    ∀ part ∈ ["namespaces", "my_namespace", "tables"] ++ [table], Url.Simple part.toList :=
  List.forall_mem_append.mpr ⟨by decide, List.forall_mem_singleton.mpr simple⟩

theorem localLink_faithful :
    Faithful tablesHost (Server.Has "my_namespace") "my_namespace" localLink where
  checks s v has := by
    rw [EngineLink.spaceExists, spaceText_local]
    refine localLink_ensures (by decide) (by decide) has.unprefixed fun r asked _ route => ?_
    simp only [Server.routed, asked, route, spaceName_local]
    refine ⟨?_, has⟩
    by_cases known : "my_namespace" ∈ s.spaces
    · rw [if_pos known, has.known.mpr known]
      rfl
    · rw [if_neg known, Bool.eq_false_iff.mpr (mt has.known.mp known)]
      rfl
  makes s v has unknown := by
    rw [EngineLink.createSpace]
    refine localLink_ensures (by decide) (by decide) has.unprefixed fun r asked carried route => ?_
    have name : ".".intercalate (levels "my_namespace") = "my_namespace" := by decide +kernel
    have unlisted : "my_namespace" ∉ s.spaces := mt has.known.mpr (by simp [unknown])
    simp only [Server.routed, asked, carried, route, Server.addSpace, name]
    rw [if_neg unlisted]
    refine ⟨?_, has.unprefixed, by simp, has.tables⟩
    simp only [Server.document, Reply.to, asked]
    decide +kernel
  creates table schema s v simple has known free := by
    rw [EngineLink.createTable, spaceText_local]
    refine localLink_ensures (by decide) (by decide) has.unprefixed fun r asked carried route => ?_
    simp only [Server.routed, asked, carried, route, spaceName_local, Server.addTable]
    rcases related_ends (has.tables table) with ⟨lost, -⟩ | ⟨_, _, -, live, -⟩
    · rw [if_neg (not_not.mpr (has.known.mp known)), lost]
      have empty : ServedTable.Holds ⟨schema, []⟩ ⟨schema.toSchema, []⟩ := ⟨rfl, rfl⟩
      refine ⟨?_, has.put (.some empty) rfl rfl fun name =>
        s.tables.get?_insert_table _ _ _ _⟩
      simp only [Reply.to, asked]
      rfl
    · cases free.symm.trans live
  loads table stored s v simple has live := by
    rw [EngineLink.loadTable, EngineLink.tableAddress, spaceText_local]
    refine localLink_ensures (tableParts_simple simple) (by simp) has.unprefixed
      fun r asked _ route => ?_
    simp only [Server.routed, asked, route, spaceName_local]
    rcases related_ends (has.tables table) with ⟨-, missing⟩ | ⟨t, _, found, there, holds⟩
    · cases missing.symm.trans live
    · cases there.symm.trans live
      rw [found]
      refine ⟨has, t, stored.rows, ?_, holds.schema, holds.rows, .refl _⟩
      simp only [Reply.to, asked]
      rfl
  commits table stored batch rows s v simple has live holds some_row := by
    have counted : batch.rowCount ≠ 0 := by
      rw [holds.counted]
      exact mt List.length_eq_zero_iff.mp some_row
    rw [EngineLink.commit, if_neg counted, EngineLink.tableAddress, spaceText_local]
    refine localLink_ensures (tableParts_simple simple) (by simp) has.unprefixed
      fun r asked carried route => ?_
    simp only [Server.routed, asked, carried, route, spaceName_local, Server.addCommit]
    rcases related_ends (has.tables table) with ⟨-, missing⟩ | ⟨t, _, found, there, kept⟩
    · cases missing.symm.trans live
    · cases there.symm.trans live
      rw [found]
      have grown : ServedTable.Holds { t with commits := t.commits ++ [batch] }
          ⟨stored.schema, stored.rows ++ rows⟩ :=
        ⟨kept.schema, committedRows_append kept.rows holds.read⟩
      refine ⟨?_, has.put (.some grown) rfl rfl fun name =>
        s.tables.get?_insert_table _ _ _ _⟩
      simp only [Reply.to, asked]
      rfl

theorem localSession_attended :
    Attended tablesHost (Server.Has "my_namespace") "my_namespace" localSession where
  client := localSession_serving
  engine s v has := by
    have replied (now : Span) : tablesHost propertiesRequest now s =
        (Server.properties {}, s, []) := by
      have closed : s.properties = Server.properties {} := by
        rw [Server.properties, has.unprefixed]
        rfl
      rw [tablesHost, Network, if_pos (by decide +kernel), if_pos (by decide +kernel), closed]
      rfl
    obtain ⟨next, asks, learned⟩ := localSession_linking
    rw [asks]
    refine .call fun now => ?_
    rw [replied, learned]
    exact .done ⟨has, localLink, rfl, localLink_faithful⟩

end RestSession

end CatalogMigration
