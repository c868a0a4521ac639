import CatalogMigration.Numeral.Digits
import CatalogMigration.Text.Quoted
import CatalogMigration.Url.Address

namespace CatalogMigration

inductive UrlHost
  | domain (name : List Char)
  | fourBytes (n : Nat)
  | eightPieces (ns : List Nat)
deriving DecidableEq, Repr

inductive UrlPath
  | opaquePath (text : List Char)
  | segments (parts : List (List Char))
deriving DecidableEq, Repr

structure Url where
  scheme : List Char
  username : List Char
  password : Option (List Char)
  host : Option UrlHost
  port : Option Nat
  path : UrlPath
  query : Option (List Char)
  fragment : Option (List Char)
deriving DecidableEq, Repr

inductive UrlError
  | emptyHost
  | invalidInternationalName
  | invalidPort
  | invalidFourBytes
  | invalidEightPieces
  | invalidDomainCharacter
  | relativeWithoutBase
  | relativeToOpaque
deriving DecidableEq, Repr

def UrlError.message : UrlError → String
  | .emptyHost => "empty host"
  | .invalidInternationalName => "invalid international domain name"
  | .invalidPort => "invalid port number"
  | .invalidFourBytes => "invalid IPv4 address"
  | .invalidEightPieces => "invalid IPv6 address"
  | .invalidDomainCharacter => "invalid domain character"
  | .relativeWithoutBase => "relative URL without a base"
  | .relativeToOpaque => "relative URL with a cannot-be-a-base base"

def UrlHost.written : UrlHost → List Char
  | .domain name => name
  | .fourBytes n => Url.writeFourBytes n
  | .eightPieces ns => '[' :: Url.writeEightPieces ns ++ [']']

def UrlHost.diagnostic : UrlHost → String
  | .domain name => "Domain(" ++ Text.quoted (String.ofList name) ++ ")"
  | .fourBytes n => "Ipv4(" ++ String.ofList (Url.writeFourBytes n) ++ ")"
  | .eightPieces ns => "Ipv6(" ++ String.ofList (Url.writeEightPieces ns) ++ ")"

namespace UrlPath

def written : UrlPath → List Char
  | .opaquePath text => text
  | .segments parts => parts.flatMap ('/' :: ·)

def isOpaque : UrlPath → Bool
  | .opaquePath _ => true
  | .segments _ => false

end UrlPath

namespace Url

/-- The schemes whose addresses always have a host, with their own ports. -/
def ownPort? (scheme : List Char) : Option Nat :=
  match String.ofList scheme with
  | "http" | "ws" => some 80
  | "https" | "wss" => some 443
  | "ftp" => some 21
  | _ => none

def isFileScheme (scheme : List Char) : Bool := String.ofList scheme == "file"

def isSpecialScheme (scheme : List Char) : Bool := (ownPort? scheme).isSome || isFileScheme scheme

def credentials (u : Url) : List Char :=
  match u.username, u.password with
  | [], none => []
  | name, none => name ++ ['@']
  | name, some password => name ++ ':' :: password ++ ['@']

def authority (u : Url) : List Char :=
  match u.host with
  | none => if isFileScheme u.scheme then ['/', '/'] else []
  | some h =>
    '/' :: '/' :: u.credentials ++ h.written ++
      match u.port with
      | none => []
      | some p => ':' :: Numeral.decimal p

/-- A path that would read as an authority gets a dot in front. -/
def guarded (u : Url) : List Char :=
  match u.host, u.path with
  | none, .segments ([] :: _ :: _) => if isFileScheme u.scheme then [] else ['/', '.']
  | _, _ => []

def withoutFragment (u : Url) : List Char :=
  u.scheme ++ ':' :: u.authority ++ u.guarded ++ u.path.written ++
    match u.query with
    | none => []
    | some q => '?' :: q

def written (u : Url) : List Char :=
  u.withoutFragment ++
    match u.fragment with
    | none => []
    | some f => '#' :: f

def display (u : Url) : String := String.ofList u.written

def diagnostic (u : Url) : String :=
  let quoted (cs : List Char) := Text.quoted (String.ofList cs)
  Text.record "Url"
    [("scheme", quoted u.scheme), ("cannot_be_a_base", Text.truth u.path.isOpaque),
      ("username", quoted u.username), ("password", Text.optional quoted u.password),
      ("host", Text.optional UrlHost.diagnostic u.host),
      ("port", Text.optional Numeral.decimalText u.port), ("path", quoted u.path.written),
      ("query", Text.optional quoted u.query), ("fragment", Text.optional quoted u.fragment)]

end Url

end CatalogMigration
