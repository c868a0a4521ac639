import CatalogMigration.Url.Reader

namespace CatalogMigration.Url

def closed (u : Url) : Url :=
  { u with path := match u.path with
    | .opaquePath text => .opaquePath (if text.getLast? = some '/' then text else text ++ ['/'])
    | .segments parts =>
      .segments (if parts.getLast? = some [] then parts else parts ++ [[]]) }

def join (u : Url) (reference : List String) : Except UrlError Url :=
  match u.path with
  | .opaquePath _ => .error .relativeToOpaque
  | .segments parts =>
    .ok { u with
      path := .segments (parts.dropLast ++ reference.map String.toList)
      query := none
      fragment := none }

def segmentSet (scheme : List Char) : EncodeSet :=
  if isSpecialScheme scheme then .specialPathSegment else .pathSegment

/-- Segments of one or two dots are left out. Tabs and line breaks in a segment do not count. -/
def push (scheme : List Char) (parts : List (List Char)) (part : List Char) : List (List Char) :=
  if part = ['.'] ∨ part = ['.', '.'] then parts
  else
    let file := isFileScheme scheme
    let before := if parts = [[]] then [] else parts
    let pushed := place file (segmentSet scheme) before true (part.filter (!isIgnored ·))
    if file then withoutEmptyFront pushed else pushed

/-- Segments below the address, whose own path may end with a slash. None below an opaque path. -/
def below? (u : Url) (segments : List String) : Option Url :=
  match u.path with
  | .opaquePath _ => none
  | .segments parts =>
    let open' := if parts.length ≠ 1 ∧ parts.getLast? = some [] then parts.dropLast else parts
    some { u with path := .segments (segments.foldl (fun ps s => push u.scheme ps s.toList) open') }

def withPair (u : Url) (name value : String) : Url :=
  let pair := formPair name value
  { u with query := match u.query with
    | none | some [] => some pair
    | some q => some (q ++ '&' :: pair) }

end CatalogMigration.Url
