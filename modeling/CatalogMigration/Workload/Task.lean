import CatalogMigration.Span
import CatalogMigration.Table.FixtureSet
import CatalogMigration.Text.Quoted

namespace CatalogMigration

inductive Task
  | writePreMigration
  | writePostMigration
  | read
deriving DecidableEq, Repr

namespace Task

def all : List Task := [.writePreMigration, .writePostMigration, .read]

def name : Task → String
  | .writePreMigration => "write_pre_migration"
  | .writePostMigration => "write_post_migration"
  | .read => "read"

structure UnknownName where
  text : String
deriving DecidableEq, Repr

def UnknownName.message (e : UnknownName) : String :=
  "unknown task " ++ Text.quoted e.text ++ ", expected one of: "
    ++ ", ".intercalate (all.map name)

def ofName (text : String) : Except UnknownName Task :=
  match all.find? (·.name = text) with
  | some task => .ok task
  | none => .error ⟨text⟩

end Task

structure Report where
  task : Task
  written : List String
  dropped : List String
  verified : List String
  waited : Span
deriving DecidableEq, Repr

namespace Report

def start (task : Task) : Report := ⟨task, [], [], [], .zero⟩

def names (label : String) (names : List String) : String :=
  if names.isEmpty then "" else "; " ++ label ++ " " ++ ", ".intercalate names

def display (r : Report) : String :=
  r.task.name ++ " succeeded" ++ names "wrote" r.written ++ names "dropped" r.dropped
    ++ (if r.waited = .zero then "" else "; waited " ++ r.waited.display)
    ++ names "verified" r.verified

end Report

namespace FixtureSet

/-- Two tables are kept, one is dropped softly and one is purged. -/
def preMigration : FixtureSet where
  maintained := [.maintained "my_table_0", .maintained "my_table_1"]
  dropped := [(.dropped "my_table_2" .soft, .soft), (.dropped "my_table_3" .purge, .purge)]
  nonempty := by decide
  maintained_role := by decide
  dropped_role := by decide
  distinct := by decide
  covered := by decide

def read : FixtureSet where
  maintained := preMigration.maintained
  dropped := []
  nonempty := by decide
  maintained_role := by decide
  dropped_role := by decide
  distinct := by decide
  covered := by decide

def postMigration : FixtureSet where
  maintained := [.maintained "my_table_post_migration_0"]
  dropped := []
  nonempty := by decide
  maintained_role := by decide
  dropped_role := by decide
  distinct := by decide
  covered := by decide

def ofTask : Task → FixtureSet
  | .writePreMigration => preMigration
  | .writePostMigration => postMigration
  | .read => read

end FixtureSet

end CatalogMigration
