import CatalogMigration.Json.Basic
import CatalogMigration.Settings.Environment
import CatalogMigration.Url.Reader

namespace CatalogMigration

open Numeral

inductive SettingKind
  | number
  | text
  | truth
  | address
deriving DecidableEq, Repr

def SettingKind.expected : SettingKind → String
  | .number => "f64"
  | .text => "a string"
  | .truth => "a boolean"
  | .address => "a string representing an URL"

inductive SettingFault
  | mismatch (found : SettingValue) (kind : SettingKind)
  | address (e : UrlError) (text : String)
deriving DecidableEq

def SettingFault.message : SettingFault → String
  | .mismatch found kind =>
    "invalid type: found " ++ found.diagnostic ++ ", expected " ++ kind.expected
  | .address e text => e.message ++ ": " ++ Text.quoted text

namespace SettingValue

def number? : SettingValue → Except SettingFault (Option Double)
  | .float x => .ok (some x)
  | .unsigned n => .ok (some (.ofRatio .double false n 1))
  | .signed n => .ok (some (.ofRatio .double (n < 0) n.natAbs 1))
  | .absent => .ok none
  | v => .error (.mismatch v .number)

def text? : SettingValue → Except SettingFault (Option String)
  | .text s => .ok (some s)
  | .absent => .ok none
  | v => .error (.mismatch v .text)

def truth? : SettingValue → Except SettingFault (Option Bool)
  | .truth b => .ok (some b)
  | .absent => .ok none
  | v => .error (.mismatch v .truth)

def address? : SettingValue → Except SettingFault (Option Url)
  | .text s => match Url.ofText s with
    | .ok url => .ok (some url)
    | .error e => .error (.address e s)
  | .absent => .ok none
  | v => .error (.mismatch v .address)

def ofJson : Json → SettingValue
  | .null => .absent
  | .bool b => .truth b
  | .number (.integer n) => if n < 0 then .signed n else .unsigned n.toNat
  | .number (.float x) => .float x
  | .text s => .text s
  | .broken => .absent
  | .array _ => .list
  | .object _ => .table

end SettingValue

structure Settings where
  softDeleteWaitSeconds : Option Double := none
  operationTimeoutSeconds : Option Double := none
  connectTimeoutSeconds : Option Double := none
  token : Option String := none
  openidClientId : Option String := none
  openidClientSecret : Option String := none
  openidTokenEndpoint : Option Url := none
  openidScope : Option String := none
  s3Endpoint : Option String := none
  s3AccessKey : Option String := none
  s3SecretKey : Option String := none
  s3Region : Option String := none
  s3PathStyleAccess : Option Bool := none
deriving DecidableEq

namespace Settings

def names : List String :=
  ["soft_delete_wait_seconds", "operation_timeout_seconds", "connect_timeout_seconds", "token",
    "openid_client_id", "openid_client_secret", "openid_token_endpoint", "openid_scope",
    "s3_endpoint", "s3_access_key", "s3_secret_key", "s3_region", "s3_path_style_access"]

/-- One more setting. A name that is not known changes nothing. -/
def set (s : Settings) (name : String) (v : SettingValue) : Except SettingFault Settings :=
  match name with
  | "soft_delete_wait_seconds" => v.number?.map fun x => { s with softDeleteWaitSeconds := x }
  | "operation_timeout_seconds" => v.number?.map fun x => { s with operationTimeoutSeconds := x }
  | "connect_timeout_seconds" => v.number?.map fun x => { s with connectTimeoutSeconds := x }
  | "token" => v.text?.map fun x => { s with token := x }
  | "openid_client_id" => v.text?.map fun x => { s with openidClientId := x }
  | "openid_client_secret" => v.text?.map fun x => { s with openidClientSecret := x }
  | "openid_token_endpoint" => v.address?.map fun x => { s with openidTokenEndpoint := x }
  | "openid_scope" => v.text?.map fun x => { s with openidScope := x }
  | "s3_endpoint" => v.text?.map fun x => { s with s3Endpoint := x }
  | "s3_access_key" => v.text?.map fun x => { s with s3AccessKey := x }
  | "s3_secret_key" => v.text?.map fun x => { s with s3SecretKey := x }
  | "s3_region" => v.text?.map fun x => { s with s3Region := x }
  | "s3_path_style_access" => v.truth?.map fun x => { s with s3PathStyleAccess := x }
  | _ => .ok s

def ofTable (table : SettingTable) : Except (String × SettingFault) Settings :=
  table.foldlM (fun s (name, v) => (s.set name v).mapError (name, ·)) {}

def unknownNames (table : SettingTable) : List String :=
  (table.map (·.1)).filter (· ∉ names)

end Settings

end CatalogMigration
