import CatalogMigration.Client.Basic
import CatalogMigration.Engine.Fault
import CatalogMigration.Engine.Properties

namespace CatalogMigration

/-- An engine that knows its catalog. -/
structure EngineLink where
  properties : EngineProperties
  token : Option String
deriving DecidableEq, Repr

namespace EngineLink

def authorization (l : EngineLink) (url : Url) : Except EngineFault (Option String) :=
  match l.token with
  | none => .ok url.basicAuthorization?
  | some token =>
    let value := "Bearer " ++ token
    if isHeaderText value then .ok (some (headerText value)) else .error .tokenUnfit

def exchange {α : Type} (r : Request) (read : Nat → Body → Except EngineFault α) :
    Exchange (Except EngineFault α) :=
  if r.url.isWeb then
    .call r fun
    | .response status body => .done (read status body)
    | .silent => .done (.error .unanswered)
    | .closed | .refused => .done (.error .request)
  else .done (.error .request)

def ask {α : Type} (l : EngineLink) (method : Method) (address : String) (content : Content)
    (read : Nat → Body → Except EngineFault α) : Exchange (Except EngineFault α) :=
  match Url.ofText address with
  | .error _ => .done (.error .request)
  | .ok url =>
    match l.authorization url with
    | .error f => .done (.error f)
    | .ok authorization =>
      exchange ⟨.engine, method, url.withoutUserinfo, authorization, content⟩ read

def spaceText (levels : List String) : String := "\x1f".intercalate levels

def readSpaceExistence (status : Nat) (_ : Body) : Except EngineFault Bool :=
  if status = 200 ∨ status = 204 then .ok true
  else if status = 404 then .ok false
  else .error .unexpectedStatus

def spaceExists (l : EngineLink) (levels : List String) : Exchange (Except EngineFault Bool) :=
  l.ask .head (l.properties.below ["namespaces", spaceText levels]) .empty readSpaceExistence

def isSpaceDocument (j : Json) : Bool :=
  match j.fields? ["namespace", "properties"] with
  | some [some (.array levels), properties] =>
    (levels.all fun l => l.text?.isSome) && (Json.optional? Json.texts? properties).isSome
  | _ => false

def readSpace (status : Nat) (body : Body) : Except EngineFault Unit :=
  if status = 200 then
    if ((body.text?.bind Json.ofText?).map isSpaceDocument).getD false then .ok ()
    else .error .unreadable
  else if status = 409 then .error .spaceExists
  else .error .unexpectedStatus

def createSpace (l : EngineLink) (levels : List String) : Exchange (Except EngineFault Unit) :=
  l.ask .post (l.properties.below ["namespaces"]) (.space levels) readSpace

def servedTable : Body → Except EngineFault ServedTable
  | .table t => .ok t
  | .text _ => .error .unreadable

def readCreation (status : Nat) (body : Body) : Except EngineFault Unit :=
  if status = 200 then (servedTable body).map fun _ => ()
  else if status = 404 then .error .noSpace
  else if status = 409 then .error .tableExists
  else .error .unexpectedStatus

def createTable (l : EngineLink) (levels : List String) (table : String) (schema : FieldSchema) :
    Exchange (Except EngineFault Unit) :=
  l.ask .post (l.properties.below ["namespaces", spaceText levels, "tables"])
    (.table table schema) readCreation

def tableAddress (l : EngineLink) (levels : List String) (table : String) : String :=
  l.properties.below ["namespaces", spaceText levels, "tables", table]

def readTable (status : Nat) (body : Body) : Except EngineFault ServedTable :=
  if status = 200 ∨ status = 304 then servedTable body
  else if status = 404 then .error .noTable
  else .error .unexpectedStatus

def loadTable (l : EngineLink) (levels : List String) (table : String) :
    Exchange (Except EngineFault ServedTable) :=
  l.ask .get (l.tableAddress levels table) .empty readTable

def readCommit (status : Nat) (body : Body) : Except EngineFault Unit :=
  match status with
  | 200 => (servedTable body).map fun _ => ()
  | 404 => .error .commitNoTable
  | 409 => .error .commitConflict
  | 500 => .error .commitFailed
  | 502 => .error .commitBadGateway
  | 504 => .error .commitGatewayTimeout
  | _ => .error .unexpectedStatus

/-- Adds a batch to a table. There is nothing to add in a batch without rows. -/
def commit (l : EngineLink) (levels : List String) (table : String) (batch : Batch) :
    Exchange (Except EngineFault Unit) :=
  if batch.rowCount = 0 then .done (.error .nothingToCommit)
  else l.ask .post (l.tableAddress levels table) (.commit batch) readCommit

def readToken (status : Nat) (body : Body) : Except EngineFault String :=
  if status = 200 then
    match body.text?.bind TokenGrant.ofText? with
    | some ⟨token, some _, _⟩ => .ok token
    | _ => .error .unreadableToken
  else match body.text?.bind ErrorDocument.ofText? with
    | some e => .error (.tokenRefused e.message)
    | none => .error .tokenUnexplained

def obtainToken (p : EngineProperties) : Exchange (Except EngineFault (Option String)) :=
  match p.get? "token", p.credential? with
  | some token, _ => .done (.ok (some token))
  | none, none => .done (.ok none)
  | none, some (id, secret) =>
    ask ⟨p, none⟩ .post p.tokenEndpoint (.form (p.tokenForm id secret)) fun status body =>
      (readToken status body).map some

/-- Defaults and overrides both have to be there. -/
def readProperties (status : Nat) (body : Body) :
    Except EngineFault (List (String × String) × List (String × String)) :=
  if status = 200 then
    match (body.text?.bind Json.ofText?).bind (Json.fields? ["overrides", "defaults"]) with
    | some [some overrides, some defaults] =>
      match overrides.texts?, defaults.texts? with
      | some overrides, some defaults => .ok (defaults, overrides)
      | _, _ => .error .unreadable
    | _ => .error .unreadable
  else .error .unexpectedStatus

def propertiesAddress (p : EngineProperties) : String :=
  p.uri ++ "/v1/config" ++
    match p.get? "warehouse" with
    | some warehouse => "?" ++ String.ofList (Url.formPair "warehouse" warehouse)
    | none => ""

def establish (p : EngineProperties) : Exchange (Except EngineFault EngineLink) :=
  (obtainToken p).andThen fun token =>
  (ask ⟨p, token⟩ .get (propertiesAddress p) .empty readProperties).andThen
    fun (defaults, overrides) =>
  let properties := p.merged defaults overrides
  .done (.ok ⟨properties, (properties.get? "token").or token⟩)

end EngineLink

structure Engine where
  properties : EngineProperties
  link : Option EngineLink
deriving DecidableEq, Repr

namespace Engine

def ofConfig (c : WorkloadConfig) : Engine := ⟨.ofConfig c, none⟩

/-- An operation of an engine that knows its catalog, or learns of it first. -/
def perform {α : Type} (e : Engine) (op : EngineLink → Exchange (Except EngineFault α)) :
    Exchange (Except EngineFault α × Engine) :=
  match e.link with
  | some l => (op l).bind fun r => .done (r, e)
  | none => (EngineLink.establish e.properties).bind fun
    | .error f => .done (.error f, e)
    | .ok l => (op l).bind fun r => .done (r, { e with link := some l })

end Engine

end CatalogMigration
