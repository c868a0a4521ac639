import CatalogMigration.Config.Basic
import CatalogMigration.Log.Event
import CatalogMigration.Settings.Basic

namespace CatalogMigration

open Numeral

namespace Settings

def fault (name reason : String) : Failure := .config (Environment.nameOf name) reason

def span (name : String) (standard : Option Span) :
    Option Double → Except Failure (Option Span)
  | none => .ok standard
  | some x => match Span.ofDouble x with
    | .ok s => .ok (some s)
    | .error e =>
      .error (fault name (String.ofList (Style.plain.render x) ++ ": " ++ e.message))

/-- A token excludes a client, and a client is an identifier with a secret. -/
def credentials (s : Settings) : Except Failure Credentials :=
  match s.token, s.openidClientId, s.openidClientSecret with
  | none, none, none => .ok .anonymous
  | some token, none, none => .ok (.token token)
  | none, some id, some secret => .ok (.client id secret s.openidTokenEndpoint s.openidScope)
  | some _, _, _ =>
    .error (.config "environment" (Environment.nameOf "token" ++ " and "
      ++ Environment.nameOf "openid_client_id" ++ " are mutually exclusive"))
  | none, _, _ =>
    .error (.config "environment" (Environment.nameOf "openid_client_id" ++ " and "
      ++ Environment.nameOf "openid_client_secret" ++ " have to be set together"))

def storage (s : Settings) : StorageOverrides where
  s3Endpoint := s.s3Endpoint
  s3AccessKey := s.s3AccessKey
  s3SecretKey := s.s3SecretKey
  s3Region := s.s3Region
  s3PathStyleAccess := s.s3PathStyleAccess

def choices (s : Settings) : Except Failure WorkloadChoices := do
  let standard : WorkloadChoices := {}
  let softDeleteWait ←
    span "soft_delete_wait_seconds" standard.softDeleteWait s.softDeleteWaitSeconds
  let operationTimeout ←
    span "operation_timeout_seconds" standard.operationTimeout s.operationTimeoutSeconds
  let connectTimeout ←
    span "connect_timeout_seconds" standard.connectTimeout s.connectTimeoutSeconds
  let credentials ← s.credentials
  return {
    softDeleteWait := softDeleteWait.getD standard.softDeleteWait
    operationTimeout
    connectTimeout := connectTimeout.getD standard.connectTimeout
    credentials
    storage := s.storage }

def ignored (name : String) : Event :=
  ⟨.warn, "migration_tests::config", "ignoring unknown setting",
    [("variable", .rendered (Environment.nameOf name))]⟩

end Settings

namespace WorkloadConfig

def ofTable (url : String) (table : SettingTable) : Except Failure WorkloadConfig × List Event :=
  match Settings.ofTable table with
  | .error (name, fault) => (.error (Settings.fault name fault.message), [])
  | .ok settings =>
    (settings.choices.bind (ofUrl url), (Settings.unknownNames table).map Settings.ignored)

def ofEnvironment (url : String) (env : Environment) :
    Except Failure WorkloadConfig × List Event :=
  ofTable url env.settings

def ofJson (url : String) : Json → Except Failure WorkloadConfig × List Event
  | .object members => ofTable url (Named.ofList (members.map fun (k, v) => (k, .ofJson v)))
  | j =>
    (.error (.config "environment"
      ("invalid type: found " ++ (SettingValue.ofJson j).diagnostic ++ ", expected map")), [])

end WorkloadConfig

end CatalogMigration
