import CatalogMigration.Client.Error
import CatalogMigration.Config.Basic
import CatalogMigration.Url.Path

namespace CatalogMigration

inductive Authentication
  | anonymous
  | token (token : String)
  /-- A token is asked for at the endpoint, by default one below the catalog. -/
  | client (tokenEndpoint : Option Url) (id secret : String) (scope : Option String)
deriving DecidableEq, Repr

def Authentication.diagnostic : Authentication → String
  | .anonymous => "Anonymous"
  | .token _ => "Token(" ++ Text.redacted ++ ")"
  | .client tokenEndpoint id _ scope => Text.record "ClientCredentials"
    [("token_endpoint", Text.optional Url.diagnostic tokenEndpoint), ("client_id", Text.quoted id),
      ("client_secret", Text.quoted Text.redacted), ("scope", Text.optional Text.quoted scope)]

def Credentials.authentication : Credentials → Authentication
  | .anonymous => .anonymous
  | .token t => .token t
  | .client id secret tokenEndpoint scope => .client tokenEndpoint id secret scope

structure ClientConfig where
  catalogUrl : Url
  warehouse : String
  authentication : Authentication := .anonymous
  timeout : Span := .ofSeconds 30
  connectTimeout : Span := .ofSeconds 10
deriving DecidableEq, Repr

namespace ClientConfig

def ofText (url warehouse : String) : Except ClientError ClientConfig :=
  match Url.ofText url with
  | .error e => .error (.url e)
  | .ok u => .ok { catalogUrl := u.closed, warehouse }

def below (c : ClientConfig) (reference : List String) : Except ClientError Url :=
  (c.catalogUrl.join reference).mapError .url

def tokenEndpoint? (c : ClientConfig) : Except ClientError (Option Url) :=
  match c.authentication with
  | .client (some endpoint) .. => .ok (some endpoint)
  | .client none .. => (c.below ["v1", "oauth", "tokens"]).map some
  | _ => .ok none

def diagnostic (c : ClientConfig) : String :=
  Text.record "ClientConfig"
    [("catalog_url", c.catalogUrl.diagnostic), ("warehouse", Text.quoted c.warehouse),
      ("authentication", c.authentication.diagnostic), ("timeout", c.timeout.display),
      ("connect_timeout", c.connectTimeout.display)]

end ClientConfig

end CatalogMigration
