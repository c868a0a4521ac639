import CatalogMigration.Url.Basic
import CatalogMigration.Url.Domain

namespace CatalogMigration.Url

open Text

def isIgnored (c : Char) : Bool := c == '\t' || c == '\n' || c == '\r'

def trimmedEnds (cs : List Char) : List Char :=
  ((cs.dropWhile (·.toNat ≤ 0x20)).reverse.dropWhile (·.toNat ≤ 0x20)).reverse

def scheme? : List Char → Option (List Char × List Char)
  | c :: cs =>
    if c.isAlpha then
      let (name, rest) := (c :: cs).span fun c => c.isAlphanum || c == '+' || c == '-' || c == '.'
      match rest with
      | ':' :: rest => some (name.map Char.toLower, rest)
      | _ => none
    else none
  | [] => none

def isSlash (special : Bool) (c : Char) : Bool := c == '/' || special && c == '\\'

def endsAuthority (special : Bool) (c : Char) : Bool := isSlash special c || c == '?' || c == '#'

def splitLast? (sep : Char) (cs : List Char) : Option (List Char × List Char) :=
  if cs.contains sep then
    let back := cs.reverse
    some (((back.dropWhile (· ≠ sep)).drop 1).reverse, (back.takeWhile (· ≠ sep)).reverse)
  else none

structure Userinfo where
  username : List Char
  password : Option (List Char)

def Userinfo.ofText (cs : List Char) : Userinfo :=
  let (name, rest) := cs.span (· ≠ ':')
  ⟨encode .userinfo name,
    match rest with
    | [] | [_] => none
    | _ :: password => some (encode .userinfo password)⟩

def userinfo? (special : Bool) (cs : List Char) : Except UrlError (Userinfo × List Char) :=
  let (authority, rest) := cs.span (!endsAuthority special ·)
  match splitLast? '@' authority with
  | none => .ok (⟨[], none⟩, cs)
  | some ([], []) => if rest.isEmpty then .ok (⟨[], none⟩, rest) else .error .emptyHost
  | some (info, host) => .ok (.ofText info, host ++ rest)

def hostText (special : Bool) : Bool → List Char → List Char × List Char
  | _, [] => ([], [])
  | inside, c :: cs =>
    if endsAuthority special c || c == ':' && !inside then ([], c :: cs)
    else
      let inside := if c == '[' then true else if c == ']' then false else inside
      let (host, rest) := hostText special inside cs
      (c :: host, rest)

def bracketed? (cs : List Char) : Except UrlError UrlHost :=
  match cs.reverse with
  | ']' :: back =>
    match eightPieces? (back.reverse.drop 1) with
    | some ns => .ok (.eightPieces ns)
    | none => .error .invalidEightPieces
  | _ => .error .invalidEightPieces

def specialHost? (cs : List Char) : Except UrlError UrlHost :=
  if cs.head? = some '[' then bracketed? cs
  else match (decodeText? cs).bind asciiDomain? with
    | none => .error .invalidInternationalName
    | some [] => .error .emptyHost
    | some name =>
      if endsInNumber name then
        match fourBytes? name with
        | some n => .ok (.fourBytes n)
        | none => .error .invalidFourBytes
      else .ok (.domain name)

def forbiddenInHost : List Char :=
  ['\x00', '\t', '\n', '\r', ' ', '#', '/', ':', '<', '>', '?', '@', '[', '\\', ']', '^', '|']

def otherHost? (cs : List Char) : Except UrlError UrlHost :=
  if cs.head? = some '[' then bracketed? cs
  else if cs.any forbiddenInHost.contains then .error .invalidDomainCharacter
  else .ok (.domain (encode .controls cs))

def port? (scheme : List Char) : List Char → Except UrlError (Option Nat × List Char)
  | ':' :: cs =>
    let (digits, rest) := cs.span Numeral.isDigit
    if !(rest.isEmpty || rest.head?.any (endsAuthority true)) then .error .invalidPort
    else match Numeral.value? 10 digits with
      | none => .ok (none, rest)
      | some n =>
        if 65535 < n then .error .invalidPort
        else .ok (if some n = ownPort? scheme then none else some n, rest)
  | cs => .ok (none, cs)

def isDrive (cs : List Char) : Bool :=
  match cs with
  | [c, m] => c.isAlpha && (m == ':' || m == '|')
  | _ => false

def isNormalDrive (cs : List Char) : Bool := isDrive cs && cs.getLast? == some ':'

def isParent (cs : List Char) : Bool :=
  ["..", "%2e%2e", "%2e.", ".%2e"].contains (String.ofList (cs.map Char.toLower))

def isCurrent (cs : List Char) : Bool :=
  [".", "%2e"].contains (String.ofList (cs.map Char.toLower))

def shortened (file : Bool) (parts : List (List Char)) : List (List Char) :=
  match parts with
  | [part] => if file && isNormalDrive part then [part] else []
  | parts => parts.dropLast

/-- A segment at the end of a path: one dot stands for the path itself and two for its parent,
which as a last segment leave an empty one. -/
def place (file : Bool) (set : EncodeSet) (parts : List (List Char)) (last : Bool)
    (part : List Char) : List (List Char) :=
  let written := encode set part
  if isParent written then shortened file parts ++ (if last then [[]] else [])
  else if isCurrent written then parts ++ (if last then [[]] else [])
  else if file && parts.isEmpty && isDrive part then [part.take 1 ++ [':']]
  else parts ++ [written]

def placeAll (file : Bool) (set : EncodeSet) :
    List (List Char) → List (List Char) → List (List Char)
  | parts, [] => parts
  | parts, [part] => place file set parts true part
  | parts, part :: rest => placeAll file set (place file set parts false part) rest

def withoutEmptyFront (parts : List (List Char)) : List (List Char) :=
  match parts.dropWhile List.isEmpty with
  | [] => [[]]
  | parts => parts

def pathSegments (scheme : List Char) (cs : List Char) : List (List Char) :=
  let special := isSpecialScheme scheme
  let file := isFileScheme scheme
  let raw := splitOn '/' (if special then cs.map fun c => if c = '\\' then '/' else c else cs)
  let parts := placeAll file .path [] raw
  if file then withoutEmptyFront parts else parts

def pathQueryFragment (cs : List Char) : List Char × Option (List Char) × Option (List Char) :=
  let (front, fragment) := cs.span (· ≠ '#')
  let (path, query) := front.span (· ≠ '?')
  (path, if query.isEmpty then none else some (query.drop 1),
    if fragment.isEmpty then none else some (fragment.drop 1))

structure Authority where
  userinfo : Userinfo := ⟨[], none⟩
  host : Option UrlHost := none
  port : Option Nat := none

def assemble (scheme : List Char) (a : Authority) (path : UrlPath)
    (query fragment : Option (List Char)) : Url :=
  let set := if isSpecialScheme scheme then EncodeSet.specialQuery else .query
  { scheme, username := a.userinfo.username, password := a.userinfo.password
    host := a.host, port := a.port, path
    query := query.map (encode set)
    fragment := fragment.map (encode .fragment) }

def pathAfterAuthority (scheme : List Char) (cs : List Char) : List (List Char) :=
  match cs with
  | [] => if isSpecialScheme scheme then [[]] else []
  | c :: rest =>
    if isSlash (isSpecialScheme scheme) c then pathSegments scheme rest
    else pathSegments scheme cs

def withAuthority (scheme cs : List Char) : Except UrlError Url := do
  let special := isSpecialScheme scheme
  let (info, rest) ← userinfo? special cs
  let (text, rest) := hostText special false rest
  if special && text.isEmpty then throw .emptyHost
  let host ← if special then specialHost? text else otherHost? text
  if text.isEmpty && rest.head? = some ':' then throw .emptyHost
  let (port, rest) ← port? scheme rest
  let (path, query, fragment) := pathQueryFragment rest
  return assemble scheme ⟨info, some host, port⟩ (.segments (pathAfterAuthority scheme path)) query fragment

/-- The host of a file address: none for the local one, nor before a drive. -/
def fileHost? (cs : List Char) : Except UrlError (Option UrlHost × List Char) :=
  let (text, rest) := cs.span (!endsAuthority true ·)
  if isDrive text then .ok (none, cs)
  else if text.isEmpty then .ok (none, rest)
  else match specialHost? text with
    | .error e => .error e
    | .ok (.domain name) =>
      .ok (if String.ofList name = "localhost" then none else some (.domain name), rest)
    | .ok host => .ok (some host, rest)

def fileUrl (scheme cs : List Char) : Except UrlError Url := do
  let (host, rest) ← match cs with
    | a :: b :: rest => if isSlash true a && isSlash true b then fileHost? rest else .ok (none, cs)
    | _ => .ok (none, cs)
  let (path, query, fragment) := pathQueryFragment rest
  let parts := pathSegments scheme (if path.head?.any (isSlash true) then path.drop 1 else path)
  let host := if parts.head?.any isNormalDrive then none else host
  return assemble scheme { host } (.segments parts) query fragment

def read (text : List Char) : Except UrlError Url :=
  let cs := (trimmedEnds text).filter (!isIgnored ·)
  match scheme? cs with
  | none => .error .relativeWithoutBase
  | some (scheme, rest) =>
    if isFileScheme scheme then fileUrl scheme rest
    else if isSpecialScheme scheme then withAuthority scheme (rest.dropWhile (isSlash true))
    else match rest with
      | '/' :: '/' :: rest => withAuthority scheme rest
      | '/' :: rest =>
        let (path, query, fragment) := pathQueryFragment rest
        .ok (assemble scheme {} (.segments (pathSegments scheme path)) query fragment)
      | rest =>
        let (path, query, fragment) := pathQueryFragment rest
        .ok (assemble scheme {} (.opaquePath (encode .controls path)) query fragment)

def ofText (s : String) : Except UrlError Url := read s.toList

end CatalogMigration.Url
