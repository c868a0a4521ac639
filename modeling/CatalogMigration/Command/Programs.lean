import CatalogMigration.Command.Arguments
import CatalogMigration.Config.Settings
import CatalogMigration.Rest.Session
import CatalogMigration.Versions.Basic

namespace CatalogMigration.Command

structure Ending where
  code : Nat
  output : String
  failure : Option Failure

def versionNumber : String := "0.1.0"

def Deviation.ending (program : String) : Deviation → Ending
  | .version => ⟨0, program ++ " " ++ versionNumber ++ "\n", none⟩
  | .usage => ⟨2, "", none⟩

def Ending.ofResult : Except Failure String → Ending
  | .ok line => ⟨0, line ++ "\n", none⟩
  | .error failure => ⟨1, "", some failure⟩

namespace InitialVersions

def program : String := "initial-versions"

def shape : Shape where
  options := [("manifest-path", fun _ => true), ("format", ["matrix", "assignment"].contains),
    ("name", fun _ => true)]
  positions := []

def render (a : Arguments) (versions : List String) : String :=
  if a.option? "format" = some "assignment" then
    Versions.assignment ((a.option? "name").getD Versions.standardName) versions
  else Versions.matrix versions

def manifestPath (a : Arguments) : String := (a.option? "manifest-path").getD Versions.standardPath

def run {m : Type → Type} [Monad m] (find : String → m (Except FileFault String))
    (args : List String) : m Ending :=
  match Arguments.ofList shape args with
  | .error deviation => return deviation.ending program
  | .ok a => do
    let path := manifestPath a
    return .ofResult ((Versions.ofFound path (← find path)).map (render a))

end InitialVersions

namespace MigrationWorkload

def program : String := "migration-workload"

def shape : Shape where
  options := []
  positions := [fun task => (Task.ofName task).isOk, fun _ => true]

def announcement (task : Task) (config : WorkloadConfig) : Event :=
  ⟨.info, "migration_workload", "running migration workload",
    [("task", .rendered task.name), ("config", .rendered config.diagnostic)]⟩

def work (task : Task) (url : String) (env : Environment) : Exchange (Except Failure String) :=
  let (config, warnings) := WorkloadConfig.ofEnvironment url env
  let started : Exchange (Except Failure String) := match config with
    | .error failure => .done (.error failure)
    | .ok config => .act (.log (announcement task config))
      ((RestSession.run config task).bind fun r => .done (r.map Report.display))
  warnings.foldr (fun e p => .act (.log e) p) started

def run (args : List String) (env : Environment) : Exchange Ending :=
  match Arguments.ofList shape args with
  | .error deviation => .done (deviation.ending program)
  | .ok ⟨_, [task, url]⟩ =>
    match Task.ofName task with
    | .error _ => .done (Deviation.usage.ending program)
    | .ok task => (work task url env).bind fun r => .done (.ofResult r)
  | .ok _ => .done (Deviation.usage.ending program)

end MigrationWorkload

end CatalogMigration.Command
