namespace CatalogMigration

inductive ColumnType
  | long
  | string
  | float
  | other (name : String)
deriving DecidableEq, Repr

def ColumnType.display : ColumnType → String
  | .long => "long"
  | .string => "string"
  | .float => "float"
  | .other name => name

structure Column where
  name : String
  type : ColumnType
  nullable : Bool := true
deriving DecidableEq, Repr

def Column.display (c : Column) : String :=
  c.name ++ ": " ++ c.type.display ++ (if c.nullable then "" else " not null")

structure TableSchema where
  columns : List Column
deriving DecidableEq, Repr

namespace TableSchema

def column? (s : TableSchema) (name : String) : Option Column := s.columns.find? (·.name = name)

def display (s : TableSchema) : String :=
  "struct<" ++ ", ".intercalate (s.columns.map Column.display) ++ ">"

def fixture : TableSchema :=
  ⟨[⟨"id", .long, true⟩, ⟨"strings", .string, true⟩, ⟨"floats", .float, true⟩]⟩

end TableSchema

end CatalogMigration
