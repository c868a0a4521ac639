import CatalogMigration.Failure
import CatalogMigration.Url.Reader

namespace CatalogMigration

inductive Credentials
  | anonymous
  | token (token : String)
  /-- A token is asked for at the endpoint, by default the catalog's own. -/
  | client (id secret : String) (tokenEndpoint : Option Url) (scope : Option String)
deriving DecidableEq, Repr

def Credentials.diagnostic : Credentials → String
  | .anonymous => "None"
  | .token _ => "Token(" ++ Text.redacted ++ ")"
  | .client id _ tokenEndpoint scope => Text.record "ClientCredentials"
    [("client_id", Text.quoted id), ("client_secret", Text.quoted Text.redacted),
      ("token_endpoint", Text.optional (fun u => Text.quoted u.display) tokenEndpoint),
      ("scope", Text.optional Text.quoted scope)]

structure StorageOverrides where
  s3Endpoint : Option String := none
  s3AccessKey : Option String := none
  s3SecretKey : Option String := none
  s3Region : Option String := none
  s3PathStyleAccess : Option Bool := none
deriving DecidableEq, Repr

namespace StorageOverrides

def isEmpty (s : StorageOverrides) : Bool := s = {}

def diagnostic (s : StorageOverrides) : String :=
  Text.record "StorageOverrides"
    [("s3_endpoint", Text.optional Text.quoted s.s3Endpoint),
      ("s3_access_key", Text.optional Text.quoted s.s3AccessKey),
      ("s3_secret_key", Text.optional (fun _ => Text.quoted Text.redacted) s.s3SecretKey),
      ("s3_region", Text.optional Text.quoted s.s3Region),
      ("s3_path_style_access", Text.optional Text.truth s.s3PathStyleAccess)]

end StorageOverrides

structure WorkloadChoices where
  softDeleteWait : Span := .ofSeconds 3
  operationTimeout : Option Span := none
  connectTimeout : Span := .ofSeconds 10
  credentials : Credentials := .anonymous
  storage : StorageOverrides := {}
deriving DecidableEq, Repr

structure WorkloadConfig extends WorkloadChoices where
  catalogUrl : Url
  warehouse : String := "demo"
  space : String := "my_namespace"
deriving DecidableEq, Repr

namespace WorkloadConfig

/-- The configuration for a catalog. Its address has to have a path that others can be below. -/
def ofUrl (text : String) (choices : WorkloadChoices) : Except Failure WorkloadConfig :=
  match Url.ofText text with
  | .error e => .error (.config "catalog url" (Text.quoted text ++ ": " ++ e.message))
  | .ok catalogUrl =>
    if catalogUrl.path.isOpaque then
      .error (.config "catalog url" (catalogUrl.display ++ " cannot be used as a base URL"))
    else .ok { choices with catalogUrl }

def diagnostic (c : WorkloadConfig) : String :=
  Text.record "WorkloadConfig"
    [("catalog_url", c.catalogUrl.diagnostic), ("warehouse", Text.quoted c.warehouse),
      ("namespace", Text.quoted c.space), ("soft_delete_wait", c.softDeleteWait.display),
      ("operation_timeout", Text.optional Span.display c.operationTimeout),
      ("connect_timeout", c.connectTimeout.display), ("credentials", c.credentials.diagnostic),
      ("storage", c.storage.diagnostic)]

end WorkloadConfig

end CatalogMigration
