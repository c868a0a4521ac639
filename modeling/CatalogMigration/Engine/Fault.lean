import CatalogMigration.Failure
import CatalogMigration.Table.FieldSchema

namespace CatalogMigration

inductive EngineFault
  | request
  | unanswered
  | unexpectedStatus
  | unreadable
  | unreadableToken
  | tokenRefused (reason : String)
  | tokenUnexplained
  | tokenUnfit
  | spaceExists
  | noSpace
  | tableExists
  | noTable
  | nothingToCommit
  | commitNoTable
  | commitConflict
  | commitFailed
  | commitBadGateway
  | commitGatewayTimeout
  | schema (name : String) (later earlier : Nat)
  | decimal (fault : DecimalFault)
deriving DecidableEq, Repr

namespace EngineFault

def kind : EngineFault → String
  | .tokenRefused _ | .tokenUnfit | .schema .. | .decimal _ => "DataInvalid"
  | .nothingToCommit => "PreconditionFailed"
  | .commitNoTable => "TableNotFound"
  | .commitConflict => "CatalogCommitConflicts"
  | _ => "Unexpected"

def reason : EngineFault → String
  | .request | .unanswered => "Failed to execute http request"
  | .unexpectedStatus => "Received response with unexpected status code"
  | .unreadable => "Failed to parse response from rest catalog server"
  | .unreadableToken => "Failed to parse response from rest catalog server!"
  | .tokenRefused reason => reason
  | .tokenUnexplained => "Received unexpected response"
  | .tokenUnfit => "Invalid token received from catalog server!"
  | .spaceExists => "Tried to create a namespace that already exists"
  | .noSpace => "Tried to create a table under a namespace that does not exist"
  | .tableExists => "The table already exists"
  | .noTable => "Tried to load a table that does not exist"
  | .nothingToCommit =>
    "No added data files or snapshot properties found when write a manifest file"
  | .commitNoTable => "Tried to update a table that does not exist"
  | .commitConflict =>
    "CatalogCommitConflicts, one or more requirements failed. The client may retry."
  | .commitFailed => "An unknown server-side problem occurred; the commit state is unknown."
  | .commitBadGateway =>
    "A gateway or proxy received an invalid response from the upstream server; the commit state is unknown."
  | .commitGatewayTimeout =>
    "A server-side gateway timeout occurred; the commit state is unknown."
  | .schema name later earlier =>
    "Invalid schema: multiple fields for name " ++ name ++ ": " ++ Numeral.decimalText later
      ++ " and " ++ Numeral.decimalText earlier
  | .decimal fault => fault.message

def message (f : EngineFault) : String := f.kind ++ " => " ++ f.reason

/-- Only a commit tells that its table is missing. -/
def sessionError (f : EngineFault) : SessionError :=
  match f with
  | .commitNoTable => .notFound f.message
  | _ => .catalog f.message

end EngineFault

end CatalogMigration
