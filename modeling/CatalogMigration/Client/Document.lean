import CatalogMigration.Json.Reader
import CatalogMigration.Json.Record

namespace CatalogMigration

/-- A catalog's properties. Overrides win over defaults. -/
structure CatalogProperties where
  defaults : List (String × String)
  overrides : List (String × String)
deriving DecidableEq, Repr

namespace CatalogProperties

def ofJson? (j : Json) : Option CatalogProperties := do
  match ← j.fields? ["defaults", "overrides"] with
  | [defaults, overrides] =>
    return ⟨← Json.defaulted? [] Json.texts? defaults, ← Json.defaulted? [] Json.texts? overrides⟩
  | _ => none

def ofText? (body : String) : Option CatalogProperties := (Json.ofText? body).bind ofJson?

def pathPrefix? (p : CatalogProperties) : Option String :=
  ((Named.get? p.overrides "prefix").or (Named.get? p.defaults "prefix")).filter (· ≠ "")

end CatalogProperties

structure ErrorDocument where
  message : String
  kind : String
  code : Nat
deriving DecidableEq, Repr

namespace ErrorDocument

def ofJson? (j : Json) : Option ErrorDocument := do
  match ← j.fields? ["error"] with
  | [some error] =>
    match ← error.fields? ["message", "type", "code"] with
    | [some message, some kind, some code] =>
      return ⟨← message.text?, ← kind.text?, ← code.natBelow? (Nat.pow 2 16)⟩
    | _ => none
  | _ => none

def ofText? (body : String) : Option ErrorDocument := (Json.ofText? body).bind ofJson?

/-- What a body that reports an error says, whatever form it has. -/
def messageOf (body : String) : String :=
  match ofText? body with
  | some e => e.kind ++ ": " ++ e.message
  | none => if body = "" then "Unknown error" else body

end ErrorDocument

structure TokenGrant where
  token : String
  kind : Option String
  lifetime : Option Nat
deriving DecidableEq, Repr

namespace TokenGrant

def ofJson? (j : Json) : Option TokenGrant := do
  match ← j.fields? ["access_token", "token_type", "expires_in"] with
  | [some token, kind, lifetime] =>
    return ⟨← token.text?, ← Json.optional? Json.text? kind,
      ← Json.optional? (Json.natBelow? (Nat.pow 2 64)) lifetime⟩
  | _ => none

def ofText? (body : String) : Option TokenGrant := (Json.ofText? body).bind ofJson?

end TokenGrant

end CatalogMigration
