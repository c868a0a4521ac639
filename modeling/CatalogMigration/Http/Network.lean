import CatalogMigration.Http.Basic

namespace CatalogMigration

structure Address where
  host : UrlHost
  port : Nat
deriving DecidableEq, Repr

namespace Address

def ofText? (s : String) : Option Address :=
  match Url.ofText ("http://" ++ s) with
  | .ok u => u.host.map fun host => ⟨host, u.port.getD 80⟩
  | .error _ => none

end Address

def Request.reaches (r : Request) (a : Address) : Bool :=
  String.ofList r.url.scheme == "http" && r.url.host == some a.host && r.url.port.getD 80 == a.port

/-- A reply as it arrives: some responses have no body. -/
def Reply.to (r : Request) : Reply → Reply
  | .response status body =>
    .response status (if r.method = .head ∨ status = 204 ∨ status = 304 then .text "" else body)
  | reply => reply

def Network (address : Address) {σ : Type} (serve : Request → σ → Reply × σ) :
    Host Request (fun _ => Reply) σ := fun r _ s =>
  if r.reaches address then
    let (reply, s) := serve r s
    (reply.to r, s, [])
  else (.refused, s, [])

def Network.down : Host Request (fun _ => Reply) Unit := fun _ _ s => (.refused, s, [])

def World.served {σ : Type} (w : World Request σ) (address : Address) : List Request :=
  w.calls.filter (·.reaches address)

namespace Replies

/-- Replies written down beforehand, one per request. -/
def serve (_ : Request) : List Reply → Reply × List Reply
  | [] => (.response 500 (.text "script exhausted"), [])
  | reply :: rest => (reply, rest)

end Replies

end CatalogMigration
