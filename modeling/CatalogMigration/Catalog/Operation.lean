import CatalogMigration.Catalog.Basic

namespace CatalogMigration

inductive CatalogOperation
  | call (c : SessionCall)
  | setUnreachable (value : Bool)
  | failAppendsTo (table : String)
  | failDropsOf (table : String)
  | replaceRows (key : TableKey) (rows : List Row)
  | replaceSchema (key : TableKey) (schema : TableSchema)
  | undrop (key : TableKey)
deriving DecidableEq

namespace CatalogOperation

@[reducible] def Result : CatalogOperation → Type
  | .call c => c.Answer
  | .replaceRows .. | .replaceSchema .. | .undrop .. => Bool
  | _ => Unit

def apply (now : Span) (c : Catalog) : (o : CatalogOperation) → o.Result × Catalog
  | .call request =>
    let (r, c, _) := Catalog.answer request now c
    (r, c)
  | .setUnreachable value => ((), { c with unreachable := value })
  | .failAppendsTo table => ((), { c with failingAppends := table :: c.failingAppends })
  | .failDropsOf table => ((), { c with failingDrops := table :: c.failingDrops })
  | .replaceRows key rows => c.replaceRows key rows
  | .replaceSchema key schema => c.replaceSchema key schema
  | .undrop key => c.undrop now key

end CatalogOperation

namespace Catalog

def after (c : Catalog) (operations : List (Span × CatalogOperation)) : Catalog :=
  operations.foldl (fun c o => (o.2.apply o.1 c).2) c

/-- The states that operations at times that never go back lead to from an empty catalog. -/
def Reachable (c : Catalog) : Prop :=
  ∃ operations : List (Span × CatalogOperation),
    operations.Pairwise (fun a b => a.1.nanos ≤ b.1.nanos) ∧
      (empty c.retention).after operations = c

end Catalog

end CatalogMigration
