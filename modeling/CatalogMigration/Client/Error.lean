import CatalogMigration.Http.Status
import CatalogMigration.Url.Basic

namespace CatalogMigration

inductive HttpFault
  | unsupported (url : Url)
  | refused (url : Url)
  | unanswered (url : Url)
  | broken (url : Url)
  | unreadable
deriving DecidableEq, Repr

namespace HttpFault

def message : HttpFault → String
  | .unsupported url => "builder error for url (" ++ url.display ++ ")"
  | .refused url | .unanswered url | .broken url =>
    "error sending request for url (" ++ url.display ++ ")"
  | .unreadable => "error decoding response body"

def isOutage : HttpFault → Bool
  | .refused _ | .unanswered _ => true
  | _ => false

end HttpFault

inductive ClientError
  | http (fault : HttpFault)
  | url (e : UrlError)
  | noBase (address : String)
  | header
  | tableNotFound (table : String)
  | denied (reason : String)
  | rejected (status : Nat) (reason : String)
deriving DecidableEq, Repr

namespace ClientError

def message : ClientError → String
  | .http fault => "HTTP request failed: " ++ fault.message
  | .url e => "Invalid URL: " ++ e.message
  | .noBase address => "URL " ++ address ++ " cannot be used as a catalog base URL"
  | .header => "Invalid header value: failed to parse header value"
  | .tableNotFound table => "Table not found: " ++ table
  | .denied reason => "Authentication failed: " ++ reason
  | .rejected status reason =>
    "Catalog API error (status " ++ Numeral.decimalText status ++ "): " ++ reason

def isOutage : ClientError → Bool
  | .http fault => fault.isOutage
  | _ => false

end ClientError

end CatalogMigration
