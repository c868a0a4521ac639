namespace CatalogMigration

inductive Level
  | trace
  | debug
  | info
  | warn
  | error
deriving DecidableEq, Repr

def Level.display : Level → String
  | .trace => "TRACE"
  | .debug => "DEBUG"
  | .info => "INFO"
  | .warn => "WARN"
  | .error => "ERROR"

/-- A value is a text, which a log line quotes, or already a rendering. -/
inductive LogValue
  | text (s : String)
  | rendered (s : String)
deriving DecidableEq, Repr

def LogValue.display : LogValue → String
  | .text s => s
  | .rendered s => s

structure Event where
  level : Level
  origin : String
  message : String
  fields : List (String × LogValue)
deriving DecidableEq, Repr

/-- What a stretch of a run is about, shown with every event inside it. -/
structure Scope where
  name : String
  fields : List (String × String)
deriving DecidableEq, Repr

structure LogEntry where
  scopes : List Scope
  event : Event
deriving DecidableEq, Repr

end CatalogMigration
