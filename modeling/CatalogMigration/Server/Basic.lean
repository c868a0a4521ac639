import CatalogMigration.Assoc
import CatalogMigration.Catalog.Basic
import CatalogMigration.Http.Network
import CatalogMigration.Json.Writer
import CatalogMigration.Log.Line

namespace CatalogMigration

/-- A reply to the requests whose line has a text in it. -/
structure ServerFault where
  pattern : String
  sender : Option Sender
  left : Option Nat
  reply : Reply

namespace ServerFault

def isHit (r : Request) (f : ServerFault) : Bool :=
  occursIn f.pattern.toList r.line.toList && f.sender.all (· = r.sender) && f.left ≠ some 0

def used (f : ServerFault) : ServerFault := { f with left := f.left.map (· - 1) }

def reply? (r : Request) : List ServerFault → Option (Reply × List ServerFault)
  | [] => none
  | f :: fs =>
    if f.isHit r then some (f.reply, f.used :: fs)
    else (reply? r fs).map fun (reply, fs) => (reply, f :: fs)

end ServerFault

structure ServedDrop where
  key : TableKey
  query : String
deriving DecidableEq, Repr

structure Server where
  pathPrefix : Option String := none
  spaces : List String := []
  tables : Assoc TableKey ServedTable := .empty
  drops : List ServedDrop := []
  requiredToken : Option String := none
  issuedToken : String := "issued"
  faults : List ServerFault := []

namespace Server

def basePath : List String := ["catalog", "v1"]

def document (status : Nat) (j : Json) : Reply := .response status (.text j.compact)

def failure (status : Nat) (kind message : String) : Reply :=
  document status (.object [("error", .object
    [("message", .text message), ("type", .text kind), ("code", .nat status)])])

def noRoute : Reply := failure 404 "NoSuchRoute" "no route"

def noTable : Reply := failure 404 "NoSuchTableException" "table missing"

def noSpace : Reply := failure 404 "NoSuchNamespaceException" "namespace missing"

def conflict : Reply := failure 409 "AlreadyExistsException" "exists"

def unauthorized : Reply := failure 401 "NotAuthorizedException" "token required"

def segments (u : Url) : List String :=
  match u.path with
  | .opaquePath _ => []
  | .segments parts => parts.map fun p => String.ofList ((Url.decodeText? p).getD p)

def endsLikeToken (u : Url) : Bool :=
  let path := u.path.written
  "token".toList.isSuffixOf path || "tokens".toList.isSuffixOf path

def properties (s : Server) : Reply :=
  document 200 (.object [("defaults", .object []),
    ("overrides", .object (s.pathPrefix.toList.map fun p => ("prefix", .text p)))])

def route? (s : Server) (u : Url) : Option (List String) :=
  let front := basePath ++
    ((Text.splitOn '/' (s.pathPrefix.getD "").toList).filter (· ≠ [])).map String.ofList
  let parts := segments u
  if front.isPrefixOf parts then some (parts.drop front.length) else none

def spaceName (segment : String) : String := segment.map fun c => if c = '\x1f' then '.' else c

def addSpace (s : Server) (levels : List String) : Reply × Server :=
  let space := ".".intercalate levels
  if space ∈ s.spaces then (conflict, s)
  else
    (document 200 (.object [("namespace", .texts levels), ("properties", .object [])]),
      { s with spaces := space :: s.spaces })

def addTable (s : Server) (space table : String) (schema : FieldSchema) : Reply × Server :=
  let key : TableKey := ⟨space, table⟩
  if space ∉ s.spaces then (noSpace, s)
  else if (s.tables.get? key).isSome then (conflict, s)
  else
    let served : ServedTable := ⟨schema, []⟩
    (.response 200 (.table served), { s with tables := s.tables.insert key served })

def addCommit (s : Server) (key : TableKey) (batch : Batch) : Reply × Server :=
  match s.tables.get? key with
  | none => (noTable, s)
  | some t =>
    let t := { t with commits := t.commits ++ [batch] }
    (.response 200 (.table t), { s with tables := s.tables.insert key t })

def dropTable (s : Server) (key : TableKey) (query : String) : Reply × Server :=
  match s.tables.get? key with
  | none => (noTable, s)
  | some _ =>
    (.response 204 (.text ""),
      { s with tables := s.tables.erase key, drops := s.drops ++ [⟨key, query⟩] })

def routed (s : Server) (r : Request) : Reply × Server :=
  match r.method, s.route? r.url, r.content with
  | .head, some ["namespaces", space], _ =>
    (if spaceName space ∈ s.spaces then .response 204 (.text "") else noSpace, s)
  | .post, some ["namespaces"], .space levels => s.addSpace levels
  | .post, some ["namespaces", space, "tables"], .table name schema =>
    s.addTable (spaceName space) name schema
  | .post, some ["namespaces", space, "tables", table], .commit batch =>
    s.addCommit ⟨spaceName space, table⟩ batch
  | .head, some ["namespaces", space, "tables", table], _ =>
    (match s.tables.get? ⟨spaceName space, table⟩ with
      | some _ => .response 204 (.text "")
      | none => noTable, s)
  | .get, some ["namespaces", space, "tables", table], _ =>
    (match s.tables.get? ⟨spaceName space, table⟩ with
      | some t => .response 200 (.table t)
      | none => noTable, s)
  | .delete, some ["namespaces", space, "tables", table], _ =>
    s.dropTable ⟨spaceName space, table⟩ (String.ofList (r.url.query.getD []))
  | _, _, _ => (noRoute, s)

/-- What the server itself replies: tokens to anyone, all else only to who has the right one. -/
def reply (s : Server) (r : Request) : Reply × Server :=
  if endsLikeToken r.url then
    (document 200 (.object [("access_token", .text s.issuedToken),
      ("token_type", .text "bearer")]), s)
  else if s.requiredToken.any fun t => r.authorization ≠ some ("Bearer " ++ t) then
    (unauthorized, s)
  else if segments r.url = basePath ++ ["config"] then (s.properties, s)
  else s.routed r

def serve (r : Request) (s : Server) : Reply × Server :=
  match ServerFault.reply? r s.faults with
  | some (reply, faults) => (reply, { s with faults })
  | none => s.reply r

def put (s : Server) (key : TableKey) (schema : FieldSchema) : Server :=
  { s with
    spaces := if key.space ∈ s.spaces then s.spaces else key.space :: s.spaces
    tables := s.tables.insert key ⟨schema, []⟩ }

def remove (s : Server) (key : TableKey) : Bool × Server :=
  ((s.tables.get? key).isSome, { s with tables := s.tables.erase key })

def tableList (s : Server) : List (TableKey × Nat) :=
  (s.tables.entries.map fun (key, t) => (key, t.commits.length)).mergeSort fun a b =>
    a.1.space < b.1.space || (a.1.space == b.1.space && !(b.1.table < a.1.table))

end Server

end CatalogMigration
