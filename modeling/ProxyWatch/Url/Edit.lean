import ProxyWatch.Url.Reader

/-! Changing the parts of a url. -/
namespace ProxyWatch.Url

/-- Changes the scheme within its kind: special schemes and others do not mix. A port that becomes the
default one is left out. -/
def setScheme? (scheme : String) (url : Url) : Option Url :=
  if isSpecial scheme != isSpecial url.scheme then none
  else if scheme == "file" && url.authority then none
  else if isSpecial scheme && url.host.isNone then none
  else some { url with
    scheme
    port := if url.port.isSome ∧ url.port = defaultPort? scheme then none else url.port }

def withoutQuery (url : Url) : Url := { url with query := none, fragment := none }

def withoutCredentials (url : Url) : Url := { url with username := "", password := none }

/-- A path without the empty segment that a slash at its end makes. -/
def dropEmptyLast (path : List String) : List String :=
  if 2 ≤ path.length ∧ path.getLast? = some "" then path.dropLast else path

/-- Puts a text on a path as one segment, encoded. The root's empty segment gives way. Dots that stand
for a place are not put on; tabs and line breaks are dropped. -/
def addSegment (special : Bool) (path : List String) (text : String) : List String :=
  if text = "." ∨ text = ".." then path
  else
    let kept := text.toList.filter fun c => c != '\t' && c != '\n' && c != '\r'
    let set := if special then EncodeSet.specialPathSegment else EncodeSet.pathSegment
    let root := if path = [""] then [] else path
    pushSegment false root (String.ofList (percentEncode set kept)) true

/-- The url whose path goes on with some segments; none if no path can be put on it. -/
def extend? (segments : List String) (url : Url) : Option Url :=
  match url.path with
  | .rigid _ => none
  | .segments path =>
    let path := segments.foldl (addSegment (isSpecial url.scheme)) (dropEmptyLast path)
    some { url with path := .segments path }

/-- Appends a pair in form encoding to the query. -/
def appendPair (name value : String) (url : Url) : Url :=
  let pair := String.ofList (formEncode name.toList ++ '=' :: formEncode value.toList)
  let query := match url.query with
    | none | some "" => pair
    | some query => s!"{query}&{pair}"
  { url with query := some query }

end ProxyWatch.Url
