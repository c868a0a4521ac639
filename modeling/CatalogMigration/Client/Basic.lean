import CatalogMigration.Client.Config
import CatalogMigration.Client.Document
import CatalogMigration.Http.Basic
import CatalogMigration.Log.Event

namespace CatalogMigration

namespace Text

def sixBits (n : Nat) : Char :=
  Char.ofNat
    (if n < 26 then 65 + n else if n < 52 then 71 + n else if n < 62 then n - 4
    else if n = 62 then 43 else 47)

/-- Three bytes make four characters, and equals signs fill up the last four. -/
def base64 : List UInt8 → List Char
  | [] => []
  | [a] =>
    let n := a.toNat * 16
    [sixBits (n / 64), sixBits (n % 64), '=', '=']
  | [a, b] =>
    let n := (a.toNat * 256 + b.toNat) * 4
    [sixBits (n / 4096), sixBits (n / 64 % 64), sixBits (n % 64), '=']
  | a :: b :: c :: rest =>
    let n := (a.toNat * 256 + b.toNat) * 256 + c.toNat
    sixBits (n / 262144) :: sixBits (n / 4096 % 64) :: sixBits (n / 64 % 64) :: sixBits (n % 64)
      :: base64 rest

end Text

structure Client where
  config : ClientConfig
  authorization : Option String
  pathPrefix : Option String
deriving DecidableEq, Repr

namespace Url

def isWeb (u : Url) : Bool :=
  u.host.isSome && ["http", "https"].contains (String.ofList u.scheme)

def basicAuthorization? (u : Url) : Option String := do
  let name ← decodeText? u.username
  let password := u.password.bind decodeText?
  if name.isEmpty ∧ password.isNone then none
  else return "Basic " ++ String.ofList (Text.base64 (utf8 (name ++ ':' :: password.getD [])))

def withoutUserinfo (u : Url) : Url := { u with username := [], password := none }

end Url

/-- A request of the client. What stands in the address to prove who asks is sent in its stead. -/
def Request.ofClient (method : Method) (url : Url) (authorization : Option String)
    (content : Content) : Request :=
  match url.basicAuthorization? with
  | some basic => ⟨.client, method, url.withoutUserinfo, some basic, content⟩
  | none => ⟨.client, method, url, authorization, content⟩

namespace Exchange

def ask {α : Type} (r : Request) (read : Nat → String → Except ClientError α) :
    Exchange (Except ClientError α) :=
  if r.url.isWeb then
    .call r fun
    | .response status body => .done (read status (body.text?.getD ""))
    | .closed => .done (.error (.http (.broken r.url)))
    | .silent => .done (.error (.http (.unanswered r.url)))
    | .refused => .done (.error (.http (.refused r.url)))
  else .done (.error (.http (.unsupported r.url)))

end Exchange

namespace Client

def failure (status : Nat) (body : String) : ClientError :=
  let message := ErrorDocument.messageOf body
  if Status.isDenial status then .denied message else .rejected status message

def ofConfig (config : ClientConfig) : Option String → Except ClientError Client
  | none => .ok ⟨config, none, none⟩
  | some token =>
    let value := "Bearer " ++ token
    if isHeaderText value then .ok ⟨config, some (headerText value), none⟩ else .error .header

def request (c : Client) (method : Method) (url : Url) : Request :=
  .ofClient method url c.authorization .empty

/-- The levels of a namespace are parted by the unit separator. -/
def spaceSegment (space : String) : String := space.map fun c => if c = '.' then '\x1f' else c

def prefixSegments (p : Option String) : List String :=
  ((Text.splitOn '/' (p.getD "").toList).filter (· ≠ [])).map String.ofList

def tableSegments (c : Client) (space table : String) : List String :=
  "v1" :: prefixSegments c.pathPrefix ++ ["namespaces", spaceSegment space, "tables", table]

def tableUrl (c : Client) (space table : String) : Except ClientError Url :=
  match c.config.catalogUrl.below? (c.tableSegments space table) with
  | some url => .ok url
  | none => .error (.noBase c.config.catalogUrl.display)

def dropUrl (c : Client) (space table : String) (purge : Bool) : Except ClientError Url :=
  (c.tableUrl space table).map (·.withPair "purgeRequested" (Text.truth purge))

def propertiesUrl (config : ClientConfig) : Except ClientError Url :=
  (config.below ["v1", "config"]).map (·.withPair "warehouse" config.warehouse)

def readProperties (status : Nat) (body : String) : Except ClientError CatalogProperties :=
  if Status.isSuccess status then
    match CatalogProperties.ofText? body with
    | some p => .ok p
    | none => .error (.http .unreadable)
  else .error (failure status body)

def properties (c : Client) : Exchange (Except ClientError CatalogProperties) :=
  match propertiesUrl c.config with
  | .error e => .done (.error e)
  | .ok url => .ask (c.request .get url) readProperties

def readExistence (status : Nat) (body : String) : Except ClientError Bool :=
  if Status.isSuccess status then .ok true
  else if status = 404 then .ok false
  else .error (failure status body)

def tableExists (c : Client) (space table : String) : Exchange (Except ClientError Bool) :=
  match c.tableUrl space table with
  | .error e => .done (.error e)
  | .ok url => .ask (c.request .head url) readExistence

def readDrop (space table : String) (status : Nat) (body : String) : Except ClientError Unit :=
  if Status.isSuccess status then .ok ()
  else if status = 404 then .error (.tableNotFound (space ++ "." ++ table))
  else .error (failure status body)

def dropTable (c : Client) (space table : String) (purge : Bool) :
    Exchange (Except ClientError Unit) :=
  match c.dropUrl space table purge with
  | .error e => .done (.error e)
  | .ok url => .ask (c.request .delete url) (readDrop space table)

def tokenForm (id secret : String) (scope : Option String) : Content :=
  .form ([("grant_type", "client_credentials"), ("client_id", id), ("client_secret", secret)]
    ++ scope.toList.map ("scope", ·))

def readToken (status : Nat) (body : String) : Except ClientError String :=
  if Status.isSuccess status then
    match TokenGrant.ofText? body with
    | some grant => .ok grant.token
    | none => .error (.http .unreadable)
  else
    .error (.denied ("token endpoint returned " ++ Status.display status ++ ": "
      ++ ErrorDocument.messageOf body))

def token (config : ClientConfig) : Exchange (Except ClientError (Option String)) :=
  match config.authentication, config.tokenEndpoint? with
  | .anonymous, _ => .done (.ok none)
  | .token token, _ => .done (.ok (some token))
  | .client .., .error e => .done (.error e)
  | .client .., .ok none => .done (.error (.denied "no token endpoint available"))
  | .client _ id secret scope, .ok (some url) =>
    .ask (.ofClient .post url none (tokenForm id secret scope)) fun status body =>
      (readToken status body).map some

def prefixResolved (p : Option String) : Act :=
  .log ⟨.debug, "catalog_client::client", "resolved catalog prefix",
    [("prefix", .rendered (Text.optional Text.quoted p))]⟩

def connect (config : ClientConfig) : Exchange (Except ClientError Client) :=
  (token config).andThen fun token =>
  match ofConfig config token with
  | .error e => .done (.error e)
  | .ok client => client.properties.andThen fun properties =>
    let client := { client with pathPrefix := properties.pathPrefix? }
    .act (prefixResolved client.pathPrefix) (.done (.ok client))

end Client

end CatalogMigration
