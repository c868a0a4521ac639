import CatalogMigration.Table.Row
import CatalogMigration.Table.Schema

namespace CatalogMigration

/-- A soft drop leaves a table recoverable for a while, a purge removes it at once. -/
inductive DropMode
  | soft
  | purge
deriving DecidableEq, Repr

namespace DropMode

def all : List DropMode := [.soft, .purge]

def isPurge : DropMode → Bool
  | .purge => true
  | .soft => false

def display : DropMode → String
  | .soft => "soft"
  | .purge => "purge"

def diagnostic : DropMode → String
  | .soft => "Soft"
  | .purge => "Purge"

end DropMode

inductive TableRole
  | maintained
  | dropped (mode : DropMode)
deriving DecidableEq, Repr

def TableRole.diagnostic : TableRole → String
  | .maintained => "Maintained"
  | .dropped mode => "Dropped(" ++ mode.diagnostic ++ ")"

structure Fixture where
  name : String
  role : TableRole
  schema : TableSchema
deriving DecidableEq, Repr

namespace Fixture

def maintained (name : String) : Fixture := ⟨name, .maintained, .fixture⟩

def dropped (name : String) (mode : DropMode) : Fixture := ⟨name, .dropped mode, .fixture⟩

end Fixture

end CatalogMigration
