import CatalogMigration.Http.Network
import CatalogMigration.Proofs.Engine.Requests
import CatalogMigration.Proofs.Session.Trace
import CatalogMigration.Rest.Session

namespace CatalogMigration

open Program

namespace Engine

def linked (e : Engine) (l : EngineLink) : Engine := { e with link := some l }

end Engine

namespace RestSession

variable {α β : Type}

namespace Step

theorem bind_eq (m : Step α) (f : α → Step β) (engine : Engine) :
    (m >>= f) engine = (m engine).bind fun
      | (.error i, engine) => .done (.error i, engine)
      | (.ok a, engine) => f a engine := by
  show (m engine).bind _ = _
  congr 1
  funext found
  obtain ⟨_ | _, engine⟩ := found <;> rfl

theorem ofEngine_eq (op : EngineLink → Exchange (Except EngineFault α)) (engine : Engine) :
    ofEngine op engine = engine.linking.bind fun
      | .error f => .done (.error (.engine f), engine)
      | .ok l => (op l).bind fun
        | .error f => .done (.error (.engine f), engine.linked l)
        | .ok a => .done (.ok a, engine.linked l) := by
  rw [ofEngine, Engine.perform_eq, bind_assoc]
  congr 1
  funext found
  cases found with
  | error f => rfl
  | ok l =>
    simp only [bind_assoc]
    congr 1
    funext r
    cases r <;> rfl

theorem ofEngine_linked (op : EngineLink → Exchange (Except EngineFault α)) (engine : Engine)
    (l : EngineLink) : ofEngine op (engine.linked l) = (op l).bind fun
      | .error f => .done (.error (.engine f), engine.linked l)
      | .ok a => .done (.ok a, engine.linked l) := by
  rw [ofEngine_eq]
  rfl

end Step

def interrupted (s : RestSession) (operation : String) (i : Interruption) : SessionError :=
  i.error operation s.client.config.timeout s.operationTimeout

def localUrl (below : List String) (query : Option String) : Url where
  scheme := "http".toList
  username := []
  password := none
  host := some (.eightPieces [0, 0, 0, 0, 0, 0, 0, 1])
  port := some 8181
  path := .segments (("catalog" :: below).map String.toList)
  query := query.map String.toList
  fragment := none

def localConfig : WorkloadConfig := { catalogUrl := localUrl [] none }

def localAddress : Address := ⟨.eightPieces [0, 0, 0, 0, 0, 0, 0, 1], 8181⟩

def localSession : RestSession where
  client := ⟨{ catalogUrl := (localUrl [] none).closed, warehouse := "demo" }, none, none⟩
  engine := .ofConfig localConfig
  operationTimeout := none

end RestSession

end CatalogMigration
