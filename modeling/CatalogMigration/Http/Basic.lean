import CatalogMigration.Session.Program
import CatalogMigration.Table.FieldSchema
import CatalogMigration.Text.Grid
import CatalogMigration.Url.Path

namespace CatalogMigration

inductive Method
  | get
  | head
  | post
  | delete
deriving DecidableEq, Repr

def Method.name : Method → String
  | .get => "GET"
  | .head => "HEAD"
  | .post => "POST"
  | .delete => "DELETE"

/-- The two halves of a session: the client asks for tables and drops them, the engine creates,
fills and reads them. -/
inductive Sender
  | client
  | engine
deriving DecidableEq, Repr

inductive Content
  | empty
  | form (pairs : List (String × String))
  | space (levels : List String)
  | table (name : String) (schema : FieldSchema)
  | commit (batch : Batch)

structure Request where
  sender : Sender
  method : Method
  url : Url
  authorization : Option String
  content : Content

namespace Content

def type : Content → String
  | .form _ => "application/x-www-form-urlencoded"
  | _ => "application/json"

def formText : Content → String
  | .form pairs => String.ofList (Text.joinedWith ['&'] (pairs.map fun (k, v) => Url.formPair k v))
  | _ => ""

end Content

namespace Request

def target (r : Request) : String :=
  String.ofList (r.url.path.written ++
    match r.url.query with
    | none => []
    | some q => '?' :: q)

def line (r : Request) : String := r.method.name ++ " " ++ r.target

end Request

structure ServedTable where
  schema : FieldSchema
  commits : List Batch

inductive Body
  | text (s : String)
  | table (t : ServedTable)

def Body.text? : Body → Option String
  | .text s => some s
  | .table _ => none

inductive Reply
  | response (status : Nat) (body : Body)
  | closed
  | silent
  | refused

abbrev Exchange := Program Request fun _ => Reply

namespace Exchange

/-- Goes on with a result, or ends with its error. -/
def andThen {ε α β : Type} (p : Exchange (Except ε α)) (next : α → Exchange (Except ε β)) :
    Exchange (Except ε β) :=
  p.bind fun
    | .error e => .done (.error e)
    | .ok a => next a

end Exchange

def isHeaderText (s : String) : Bool :=
  s.toList.all fun c => (0x20 ≤ c.toNat && c.toNat ≠ 0x7f) || c == '\t'

/-- A header travels without blanks at its end. -/
def headerText (s : String) : String :=
  String.ofList (s.toList.reverse.dropWhile fun c => c == ' ' || c == '\t').reverse

end CatalogMigration
