import CatalogMigration.Proofs.Client.Address
import CatalogMigration.Proofs.Client.Connection

namespace CatalogMigration

open Program

namespace Url

variable {scheme : List Char}

theorem push_grown (notFile : isFileScheme scheme = false) {front rest : List (List Char)}
    (start : front ≠ []) (grown : rest ≠ []) (part : List Char) :
    ∃ more, more ≠ [] ∧ push scheme (front ++ rest) part = front ++ more := by
  have long : held (front ++ rest) = front ++ rest := by
    refine held_of_ne fun root => ?_
    have lengths := congrArg List.length root
    have first := List.length_pos_iff.mpr start
    have second := List.length_pos_iff.mpr grown
    rw [List.length_append, List.length_singleton] at lengths
    omega
  by_cases dots : part = ['.'] ∨ part = ['.', '.']
  · exact ⟨rest, grown, by rw [push, if_pos dots]⟩
  · obtain ⟨single, double⟩ := not_or.mp dots
    rw [push_eq notFile _ single double, long]
    dsimp only
    split
    · exact ⟨rest.dropLast ++ [[]], by simp, by
        rw [List.dropLast_append_of_ne_nil grown, List.append_assoc]⟩
    · split
      · exact ⟨rest ++ [[]], by simp, List.append_assoc ..⟩
      · exact ⟨_, by simp, List.append_assoc ..⟩

theorem pushes_grown (notFile : isFileScheme scheme = false) {front rest : List (List Char)}
    (start : front ≠ []) (grown : rest ≠ []) (texts : List (List Char)) :
    ∃ more, more ≠ [] ∧ texts.foldl (push scheme) (front ++ rest) = front ++ more := by
  induction texts generalizing rest with
  | nil => exact ⟨rest, grown, rfl⟩
  | cons part texts ih =>
    obtain ⟨more, grown, pushed⟩ := push_grown notFile start grown part
    rw [List.foldl_cons, pushed]
    exact ih grown

theorem pushes_below (notFile : isFileScheme scheme = false) (parts : List (List Char))
    {part : List Char} (nonempty : part ≠ []) {texts : List (List Char)} {next : List Char}
    (plain : ∀ p ∈ part :: (texts ++ [next]), Plain p) (others : List (List Char)) :
    ∃ more, more ≠ [] ∧ (part :: (texts ++ next :: others)).foldl (push scheme) parts =
      held parts ++ (part :: texts).map (encode (segmentSet scheme)) ++ more := by
  have start : (part :: (texts ++ [next])).foldl (push scheme) parts =
      held parts ++ (part :: texts).map (encode (segmentSet scheme)) ++
        [encode (segmentSet scheme) next] := by
    rw [pushes_of_plain notFile parts nonempty plain]
    simp
  have split : part :: (texts ++ next :: others) = part :: (texts ++ [next]) ++ others := by simp
  rw [split, List.foldl_append, start]
  exact pushes_grown notFile (List.append_ne_nil_of_right_ne_nil _ (by simp)) (by simp) others

theorem IsHttp.of_web {u : Url} (web : u.isWeb = true) : u.IsHttp := by
  have scheme : String.ofList u.scheme = "http" ∨ String.ofList u.scheme = "https" := by
    simp [isWeb] at web
    exact web.2
  exact scheme.imp (fun same => by rw [← same, String.toList_ofList])
    (fun same => by rw [← same, String.toList_ofList])

end Url

namespace Client

open Url

def tablesRoot (c : Client) (base : List (List Char)) : List (List UInt8) :=
  (held (foundation base)).map decode ++ ("v1" :: prefixSegments c.pathPrefix).map (utf8 ·.toList)

theorem tableUrl_below {c : Client} {base : List (List Char)} {space table : String} {url : Url}
    (found : c.tableUrl space table = .ok url) (web : url.isWeb = true)
    (path : c.config.catalogUrl.path = .segments base)
    (plain : ∀ part ∈ prefixSegments c.pathPrefix, Plain part.toList) :
    ∃ rest, rest ≠ [] ∧ url.segmentBytes = c.tablesRoot base ++ rest := by
  rw [tableUrl, below?_segments path] at found
  cases found
  have notFile : isFileScheme c.config.catalogUrl.scheme = false := (IsHttp.of_web web).not_file
  have plains : ∀ part ∈ "v1".toList ::
      ((prefixSegments c.pathPrefix).map String.toList ++ ["namespaces".toList]), Plain part := by
    intro part member
    rcases List.mem_cons.mp member with rfl | member
    · decide
    · rcases List.mem_append.mp member with member | member
      · exact List.forall_mem_map.mpr plain part member
      · rw [List.mem_singleton.mp member]
        decide
  obtain ⟨more, grown, pushed⟩ := pushes_below notFile (foundation base) (by decide) plains
    [(spaceSegment space).toList, "tables".toList, table.toList]
  have split : (c.tableSegments space table).map String.toList =
      "v1".toList :: ((prefixSegments c.pathPrefix).map String.toList ++
        "namespaces".toList :: [(spaceSegment space).toList, "tables".toList, table.toList]) := by
    simp [tableSegments]
  refine ⟨more.map decode, by simpa using grown, ?_⟩
  rw [split, pushed, segmentBytes]
  simp only [List.map_append, List.map_map, tablesRoot]
  congr 2
  show (("v1" :: prefixSegments c.pathPrefix).map String.toList).map _ = _
  rw [List.map_map]
  exact List.map_congr_left fun part _ => decode_encode (percent_mem_segmentSet _) part.toList

/-- What can be asked of a client once it has connected. -/
inductive Use
  | exists (space table : String)
  | drop (space table : String) (purge : Bool)

def Use.Answer : Use → Type
  | .exists .. => Except ClientError Bool
  | .drop .. => Except ClientError Unit

def use (c : Client) : (u : Use) → Exchange u.Answer
  | .exists space table => c.tableExists space table
  | .drop space table purge => c.dropTable space table purge

abbrev Uses (α : Type) := Program Use Use.Answer α

def useAll {α : Type} (c : Client) (uses : Uses α) : Exchange α :=
  (uses.translate (fun u () => (c.use u).bind fun r => .done (r, ())) ()).bind fun r => .done r.1

def life {α : Type} (config : ClientConfig) (uses : Uses α) :
    Exchange (Except ClientError (Client × α)) :=
  (connect config).andThen fun c => (c.useAll uses).bind fun a => .done (.ok (c, a))

/-- A request of a client that has connected: it has no body, carries the client's authorization and
goes to the catalog's own server, below the prefix. -/
structure Later (c : Client) (r : Request) : Prop where
  sender : r.sender = .client
  method : r.method = .head ∨ r.method = .delete
  content : r.content = .empty
  authorization : r.authorization = c.config.catalogUrl.basicAuthorization?.or c.authorization
  server : r.url.scheme = c.config.catalogUrl.scheme ∧ r.url.host = c.config.catalogUrl.host ∧
    r.url.port = c.config.catalogUrl.port
  below : ∀ base, c.config.catalogUrl.path = .segments base →
    (∀ part ∈ prefixSegments c.pathPrefix, Plain part.toList) →
    ∃ rest, rest ≠ [] ∧ r.url.segmentBytes = c.tablesRoot base ++ rest

theorem tableUrl_path {c : Client} {space table : String} {url : Url}
    (found : c.tableUrl space table = .ok url) :
    url = { c.config.catalogUrl with path := url.path } := by
  cases path : c.config.catalogUrl.path with
  | opaquePath text =>
    have nowhere := tableUrl_of_opaque path space table
    rw [nowhere] at found
    cases found
  | segments base =>
    rw [tableUrl_eq path] at found
    cases found
    rfl

theorem later_request {c : Client} {space table : String} {url address : Url} {method : Method}
    (found : c.tableUrl space table = .ok url) (web : url.isWeb = true)
    (there : address = { url with query := address.query })
    (asks : method = .head ∨ method = .delete) : c.Later (c.request method address) := by
  have own : address = { c.config.catalogUrl with path := url.path, query := address.query } := by
    rw [there, tableUrl_path found]
  have sent : (c.request method address).SentTo address method c.authorization .empty :=
    Request.ofClient_sentTo ..
  have same : (c.request method address).url.withoutUserinfo = Url.withoutUserinfo
      { c.config.catalogUrl with path := url.path, query := address.query } :=
    sent.address.trans (congrArg Url.withoutUserinfo own)
  refine ⟨sent.sender, sent.method.symm ▸ asks, sent.content, ?_, ⟨(congrArg Url.scheme same :),
    (congrArg Url.host same :), (congrArg Url.port same :)⟩, fun base path plain => ?_⟩
  · refine sent.authorization.trans ?_
    rw [own]
    rfl
  · obtain ⟨rest, more, below⟩ := tableUrl_below found web path plain
    have place : (c.request method address).url.path = url.path := (congrArg Url.path same :)
    exact ⟨rest, more, by rw [← below, segmentBytes, segmentBytes, place]⟩

theorem use_only (c : Client) (u : Use) : Only c.Later (c.use u) := by
  cases u with
  | «exists» space table =>
    rw [use, tableExists]
    cases found : c.tableUrl space table with
    | error e => exact .done _
    | ok url =>
      refine Exchange.ask_only _ fun web => ?_
      rw [request, Request.isWeb_ofClient] at web
      exact later_request found web rfl (.inl rfl)
  | drop space table purge =>
    rw [use, dropTable]
    cases found : c.tableUrl space table with
    | error e =>
      rw [dropUrl, found]
      exact .done _
    | ok url =>
      rw [dropUrl_of_address found]
      refine Exchange.ask_only _ fun web => ?_
      rw [request, Request.isWeb_ofClient] at web
      exact later_request found web rfl (.inr rfl)

theorem useAll_only {α : Type} (c : Client) (uses : Uses α) : Only c.Later (c.useAll uses) := by
  refine Only.bind ?_ fun _ => .done _
  induction uses with
  | done a => exact .done _
  | call u next ih =>
    exact ((use_only c u).bind fun _ => .done _).bind fun r => ih r.1
  | act a next ih => exact .act a ih

end Client

theorem Exchange.trace_of_same_url {α : Type} {r r' : Request} {given : List Asked}
    {read : Nat → String → Except ClientError α} {result : Except ClientError α}
    (place : r'.url = r.url) (trace : Trace (ask r read) given result) :
    given = [] ∧ Trace (ask r' read) [] result ∨
    ∃ reply, given = [⟨r, reply⟩] ∧ Trace (ask r' read) [⟨r', reply⟩] result := by
  cases web : r.url.isWeb with
  | false =>
    rw [ask_of_other web] at trace
    rw [ask_of_other (place ▸ web), place]
    cases trace
    exact .inl ⟨rfl, .done _⟩
  | true =>
    rw [ask_of_web web] at trace
    rw [ask_of_web (place ▸ web), place]
    cases trace with
    | call reply rest =>
      cases rest
      refine .inr ⟨reply, rfl, ?_⟩
      exact @Trace.call Request (fun _ => Reply) _ r' _ reply [] _ (.done _)

def Authentication.withSecret (secret : String) : Authentication → Authentication
  | .client endpoint id _ scope => .client endpoint id secret scope
  | .anonymous => .anonymous
  | .token t => .token t

def ClientConfig.withSecret (config : ClientConfig) (secret : String) : ClientConfig :=
  { config with authentication := config.authentication.withSecret secret }

namespace Client

variable {config : ClientConfig} {given : List Asked}

def withSecret (c : Client) (secret : String) : Client :=
  { c with config := c.config.withSecret secret }

/-- Another secret shows in the form that asks for a token, and that form goes to where tokens are
asked for. -/
def AlikeButSecret (config : ClientConfig) (secret : String) (x y : Asked) : Prop :=
  y = x ∨ y.2 = x.2 ∧ ∃ endpoint id own scope url,
    config.authentication = .client endpoint id own scope ∧
    config.tokenEndpoint? = .ok (some url) ∧
    x.1.SentTo url .post none (tokenForm id own scope) ∧
    y.1.SentTo url .post none (tokenForm id secret scope)

theorem alike_self (config : ClientConfig) (secret : String) (given : List Asked) :
    List.Forall₂ (AlikeButSecret config secret) given given :=
  List.forall₂_same.mpr fun _ _ => .inl rfl

theorem token_withSecret {result : Except ClientError (Option String)}
    (trace : Trace (token config) given result) (secret : String) :
    ∃ given', List.Forall₂ (AlikeButSecret config secret) given given' ∧
      Trace (token (config.withSecret secret)) given' result := by
  have unchanged (none_kept : config.authentication.withSecret secret = config.authentication) :
      config.withSecret secret = config := by rw [ClientConfig.withSecret, none_kept]
  cases mode : config.authentication with
  | anonymous =>
    rw [unchanged (by rw [mode]; rfl)]
    exact ⟨given, alike_self .., trace⟩
  | token t =>
    rw [unchanged (by rw [mode]; rfl)]
    exact ⟨given, alike_self .., trace⟩
  | client endpoint id own scope =>
    have mode' : (config.withSecret secret).authentication = .client endpoint id secret scope := by
      rw [ClientConfig.withSecret, mode]
      rfl
    have address' : (config.withSecret secret).tokenEndpoint? = config.tokenEndpoint? := by
      rw [ClientConfig.tokenEndpoint?, ClientConfig.tokenEndpoint?, mode, mode']
      cases endpoint <;> rfl
    rw [token, mode] at trace
    rw [token, mode', address']
    cases address : config.tokenEndpoint? with
    | error e =>
      rw [address] at trace
      exact ⟨given, alike_self .., trace⟩
    | ok found =>
      rw [address] at trace
      cases found with
      | none => exact ⟨given, alike_self .., trace⟩
      | some url =>
        have sent (own : String) := Request.ofClient_sentTo .post url none (tokenForm id own scope)
        have place : (Request.ofClient .post url none (tokenForm id secret scope)).url =
            (Request.ofClient .post url none (tokenForm id own scope)).url := by
          unfold Request.ofClient
          cases url.basicAuthorization? <;> rfl
        rcases Exchange.trace_of_same_url place trace with ⟨rfl, unasked⟩ | ⟨reply, rfl, asked⟩
        · exact ⟨[], .nil, unasked⟩
        · refine ⟨[⟨_, reply⟩], .cons (.inr ?_) .nil, asked⟩
          exact ⟨rfl, endpoint, id, own, scope, url, mode, address, sent own, sent secret⟩

theorem ofConfig_withSecret (config : ClientConfig) (secret : String) (t : Option String) :
    ofConfig (config.withSecret secret) t = (ofConfig config t).map (·.withSecret secret) := by
  cases t with
  | none => rfl
  | some t =>
    rw [ofConfig, ofConfig]
    split <;> rfl

theorem connect_withSecret {result : Except ClientError Client}
    (trace : Trace (connect config) given result) (secret : String) :
    ∃ given', List.Forall₂ (AlikeButSecret config secret) given given' ∧
      Trace (connect (config.withSecret secret)) given' (result.map (·.withSecret secret)) := by
  rcases Exchange.trace_of_andThen trace with ⟨e, failed, rfl⟩ | ⟨t, first, rest, start, tail, rfl⟩
  · obtain ⟨first', alike, failed⟩ := token_withSecret failed secret
    exact ⟨first', alike, Exchange.trace_andThen_error failed⟩
  · obtain ⟨first', alike, start⟩ := token_withSecret start secret
    refine ⟨first' ++ rest, List.rel_append alike (alike_self ..), Exchange.trace_andThen start ?_⟩
    rw [ofConfig_withSecret]
    cases made : ofConfig config t with
    | error e =>
      rw [made] at tail
      cases tail
      exact .done _
    | ok c =>
      rw [made] at tail
      have same : (c.withSecret secret).properties = c.properties := rfl
      rcases Exchange.trace_of_andThen tail with
        ⟨e, told, rfl⟩ | ⟨p, asked, last, told, finish, rfl⟩
      · exact Exchange.trace_andThen_error (same ▸ told)
      · refine Exchange.trace_andThen (same ▸ told) ?_
        cases finish with
        | act _ finish =>
          cases finish
          exact .act _ (.done _)

theorem useAll_withSecret {α : Type} (c : Client) (uses : Uses α) (secret : String) :
    (c.withSecret secret).useAll uses = c.useAll uses := by
  have same : (c.withSecret secret).use = c.use := by
    funext u
    cases u <;> rfl
  rw [useAll, useAll, same]

theorem life_withSecret {α : Type} {uses : Uses α} {result : Except ClientError (Client × α)}
    (trace : Trace (life config uses) given result) (secret : String) :
    ∃ given', List.Forall₂ (AlikeButSecret config secret) given given' ∧
      Trace (life (config.withSecret secret) uses) given'
        (result.map fun r => (r.1.withSecret secret, r.2)) := by
  rcases Exchange.trace_of_andThen trace with ⟨e, failed, rfl⟩ | ⟨c, first, rest, start, tail, rfl⟩
  · obtain ⟨first', alike, failed⟩ := connect_withSecret failed secret
    exact ⟨first', alike, Exchange.trace_andThen_error failed⟩
  · obtain ⟨first', alike, start⟩ := connect_withSecret start secret
    refine ⟨first' ++ rest, List.rel_append alike (alike_self ..), Exchange.trace_andThen start ?_⟩
    obtain ⟨a, used, last, used_all, finish, rfl⟩ := tail.of_bind
    cases finish
    rw [useAll_withSecret]
    exact used_all.bind (.done _)

theorem life_trace {α : Type} {uses : Uses α} {result : Except ClientError (Client × α)}
    (trace : Trace (life config uses) given result) :
    ∃ opening later opened, given = opening ++ later ∧ Connects config opening opened ∧
      (∀ e, opened = .error e → later = [] ∧ result = .error e) ∧
      ∀ c, opened = .ok c → (∀ x ∈ later, c.Later x.1) ∧ ∃ a, result = .ok (c, a) := by
  rcases Exchange.trace_of_andThen trace with ⟨e, failed, rfl⟩ | ⟨c, first, rest, start, tail, rfl⟩
  · refine ⟨given, [], .error e, (List.append_nil _).symm, connect_trace failed, ?_, fun _ => nofun⟩
    intro _ same
    cases same
    exact ⟨rfl, rfl⟩
  · refine ⟨first, rest, .ok c, rfl, connect_trace start, fun _ => nofun, ?_⟩
    intro _ same
    cases same
    obtain ⟨a, used, last, asked, finish, rfl⟩ := tail.of_bind
    cases finish
    rw [List.append_nil]
    exact ⟨(useAll_only c uses).trace asked, a, rfl⟩

example :
    let host : Host Request (fun _ => Reply) Unit := fun _ _ _ => (.response 200 (.text
      "\x7b\"access_token\":\"t\",\"overrides\":\x7b\"prefix\":\"a/b\"\x7d\x7d"), (), [])
    let url : Url := ⟨"http".toList, [], none, some (.domain "localhost".toList), some 8181,
      .segments ["catalog".toList, []], none, none⟩
    (answers ((life ⟨url, "demo", .client none "id" "secret" none, .zero, .zero⟩
      (.call (.drop "my_namespace" "my_table_0" true) fun _ => .done ())).steps host .zero ())).map
        (fun x => (x.1.line, x.1.authorization)) =
      [("POST /catalog/v1/oauth/tokens", none),
        ("GET /catalog/v1/config?warehouse=demo", some "Bearer t"),
        ("DELETE /catalog/v1/a/b/namespaces/my_namespace/tables/my_table_0?purgeRequested=true",
          some "Bearer t")] := by
  decide +kernel

end Client

end CatalogMigration
