import CatalogMigration.Config.Basic
import CatalogMigration.Assoc
import CatalogMigration.Text.Grid

namespace CatalogMigration

abbrev EngineProperties := List (String × String)

def withoutSlashes (s : String) : String :=
  String.ofList (s.toList.reverse.dropWhile (· = '/')).reverse

def Credentials.properties : Credentials → EngineProperties
  | .anonymous => []
  | .token t => [("token", t)]
  | .client id secret tokenEndpoint scope =>
    ("credential", id ++ ":" ++ secret)
      :: tokenEndpoint.toList.map (fun u => ("oauth2-server-uri", u.display))
      ++ scope.toList.map ("scope", ·)

def StorageOverrides.properties (s : StorageOverrides) : EngineProperties :=
  s.s3Endpoint.toList.map ("s3.endpoint", ·) ++ s.s3AccessKey.toList.map ("s3.access-key-id", ·)
    ++ s.s3SecretKey.toList.map ("s3.secret-access-key", ·)
    ++ s.s3Region.toList.map ("s3.region", ·)
    ++ s.s3PathStyleAccess.toList.map fun b => ("s3.path-style-access", Text.truth b)

namespace EngineProperties

def ofConfig (c : WorkloadConfig) : EngineProperties :=
  Named.ofList ([("uri", withoutSlashes c.catalogUrl.display), ("warehouse", c.warehouse)]
    ++ c.credentials.properties ++ c.storage.properties)

def get? (p : EngineProperties) (name : String) : Option String := Named.get? p name

def uri (p : EngineProperties) : String := (p.get? "uri").getD ""

/-- An identifier and a secret, parted by the first colon. Without a colon there is no
identifier. -/
def splitCredential (s : String) : Option String × String :=
  let (front, rest) := s.toList.span (· ≠ ':')
  match rest with
  | [] => (none, s)
  | _ :: secret => (some (String.ofList front), String.ofList secret)

def credential? (p : EngineProperties) : Option (Option String × String) :=
  (p.get? "credential").map splitCredential

def tokenEndpoint (p : EngineProperties) : String :=
  (p.get? "oauth2-server-uri").getD (p.uri ++ "/v1/oauth/tokens")

def tokenForm (p : EngineProperties) (id : Option String) (secret : String) :
    List (String × String) :=
  ("grant_type", "client_credentials") :: id.toList.map ("client_id", ·)
    ++ [("client_secret", secret), ("scope", (p.get? "scope").getD "catalog")]
    ++ ["audience", "resource"].filterMap fun name => (p.get? name).map (name, ·)

def below (p : EngineProperties) (segments : List String) : String :=
  "/".intercalate ([p.uri, "v1"] ++ (p.get? "prefix").toList ++ segments)

/-- What a catalog adds: its defaults yield to what was given, its overrides do not. -/
def merged (given : EngineProperties) (defaults overrides : List (String × String)) :
    EngineProperties :=
  Named.ofList (defaults ++ given ++ overrides)

end EngineProperties

end CatalogMigration
