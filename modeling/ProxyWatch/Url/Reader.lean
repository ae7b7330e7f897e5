import ProxyWatch.Url.Basic

/-! Reading urls by the rules of the URL Standard. -/
namespace ProxyWatch.Url
variable [Idna]

/-- Blanks and control characters are dropped at the ends, tabs and line breaks everywhere. -/
def clean (text : List Char) : List Char :=
  let atEnd (c : Char) : Bool := c.toNat ≤ 0x20
  let trimmed := ((text.dropWhile atEnd).reverse.dropWhile atEnd).reverse
  trimmed.filter fun c => c != '\t' && c != '\n' && c != '\r'

def isSchemeChar (c : Char) : Bool := c.isAlphanum || c == '+' || c == '-' || c == '.'

/-- The scheme in lower case, and what follows its colon. -/
def readScheme (text : List Char) : Option (String × List Char) :=
  match text with
  | [] => none
  | c :: _ =>
    if c.isAlpha then
      match text.dropWhile isSchemeChar with
      | ':' :: rest =>
        some (String.ofList ((text.takeWhile isSchemeChar).map Char.toLower), rest)
      | _ => none
    else none

/-- Whether a character separates segments: the backslash does in special urls. -/
def isSlash (special : Bool) (c : Char) : Bool := c == '/' || (special && c == '\\')

/-- Whether a character ends the authority. -/
def endsAuthority (special : Bool) (c : Char) : Bool :=
  isSlash special c || c == '?' || c == '#'

/-- Splits at the last of a character, if there is one. -/
def splitLast (separator : Char) (text : List Char) : Option (List Char × List Char) :=
  let reversed := text.reverse
  match reversed.dropWhile (· != separator) with
  | [] => none
  | _ :: before => some (before.reverse, (reversed.takeWhile (· != separator)).reverse)

/-- User name and password. An empty password is none. -/
def readCredentials (text : List Char) : String × Option String :=
  let name := text.takeWhile (· != ':')
  let password := (text.dropWhile (· != ':')).drop 1
  let encoded (part : List Char) : String := String.ofList (percentEncode .userinfo part)
  (encoded name, if password.isEmpty then none else some (encoded password))

/-- Splits a host from its port at the first colon outside brackets. -/
def splitPort (inBrackets : Bool) : List Char → List Char × Option (List Char)
  | [] => ([], none)
  | c :: rest =>
    if c = ':' ∧ !inBrackets then ([], some rest)
    else
      let (host, port) := splitPort (if c = '[' then true else if c = ']' then false else inBrackets) rest
      (c :: host, port)

/-- The digits of a port. In other than special urls a backslash ends them too, and the path goes on
from there. -/
def readPort (scheme : String) (text : List Char) : Except ParseError (Option Nat × List Char) :=
  let digits := text.takeWhile Char.isDigit
  let rest := text.dropWhile Char.isDigit
  let port := (readBase 10 digits).getD 0
  if 65535 < port then .error .invalidPort
  else if rest.isEmpty ∨ rest.head? = some '\\' then
    .ok (if digits.isEmpty ∨ defaultPort? scheme = some port then none else some port, rest)
  else .error .invalidPort

/-- The host of a url, by the kind of its scheme. -/
def readHost (scheme : String) (text : List Char) : Except ParseError Host :=
  if isSpecial scheme then Host.read text else Host.readPlain text

/-- Host and port, given the credentials before them. What is no part of the port belongs to the path
already. -/
def readPlace (scheme : String) (credentials place : List Char) : Except ParseError (Url × List Char) :=
  let (username, password) := readCredentials credentials
  let (hostText, portText) := splitPort false place
  if isSpecial scheme ∧ hostText.isEmpty then .error .emptyHost
  else do
    let host ← readHost scheme hostText
    let host := if host = .domain "" then none else some host
    if host.isNone ∧ (portText.isSome ∨ !username.isEmpty ∨ password.isSome) then .error .emptyHost
    else do
      let (port, rest) ← match portText with
        | none => .ok (none, [])
        | some digits => readPort scheme digits
      pure ({ scheme, username, password, authority := true, host, port }, rest)

/-- The user name, password, host and port of an authority, and what belongs to the path already. -/
def readAuthority (scheme : String) (text : List Char) (pathFollows : Bool) :
    Except ParseError (Url × List Char) :=
  match splitLast '@' text with
  | none => readPlace scheme [] text
  | some (credentials, place) =>
    if credentials.isEmpty ∧ place.isEmpty ∧ pathFollows then .error .emptyHost
    else readPlace scheme credentials place

def isSingleDot (segment : String) : Bool := segment == "." || segment.map Char.toLower == "%2e"

def isDoubleDot (segment : String) : Bool :=
  ["..", ".%2e", "%2e.", "%2e%2e"].contains (segment.map Char.toLower)

/-- A drive letter at the start of a file path is written with a colon. -/
def isDriveLetter (segment : String) : Bool :=
  match segment.toList with
  | [letter, mark] => letter.isAlpha && (mark == ':' || mark == '|')
  | _ => false

/-- The path above a path. Nothing is above a drive letter in a file url. -/
def above (isFile : Bool) (path : List String) : List String :=
  if isFile && path.length == 1 && path.any isDriveLetter then path else path.dropLast

/-- Puts the next segment on a path. A dot stands for the same place and two dots for the one above;
the path then ends in a slash if they are the last segment. -/
def pushSegment (isFile : Bool) (path : List String) (segment : String) (isLast : Bool) : List String :=
  if isDoubleDot segment then above isFile path ++ (if isLast then [""] else [])
  else if isSingleDot segment then path ++ (if isLast then [""] else [])
  else path ++ [segment]

def pushAll (isFile : Bool) (path : List String) : List String → List String
  | [] => path
  | [last] => pushSegment isFile path last true
  | segment :: rest => pushAll isFile (pushSegment isFile path segment false) rest

/-- The segments of a path text without its first slash. -/
def readSegments (special isFile : Bool) (text : List Char) : List String :=
  let slashes := text.map fun c => if isSlash special c then '/' else c
  pushAll isFile [] ((splitOn '/' slashes).map fun part => String.ofList (percentEncode .path part))

/-- A path after an authority. Special urls always have one. -/
def readPath (special isFile : Bool) (text : List Char) : List String :=
  match text with
  | [] => if special then [""] else []
  | c :: rest => readSegments special isFile (if isSlash special c then rest else text)

def readFilePath (text : List Char) : List String :=
  let segments := (readPath true true text).dropWhile (·.isEmpty)
  match segments with
  | [] => [""]
  | first :: rest =>
    if isDriveLetter first then String.ofList (first.toList.take 1 ++ [':']) :: rest else segments

/-- What follows `file:`, up to query and fragment. -/
def readFile (text : List Char) : Except ParseError Url :=
  match text with
  | a :: b :: rest =>
    if isSlash true a && isSlash true b then
      let name := rest.takeWhile fun c => !isSlash true c
      let path := rest.dropWhile fun c => !isSlash true c
      if name.isEmpty then
        .ok { scheme := "file", authority := true, path := .segments (readFilePath path) }
      else if isDriveLetter (String.ofList name) then
        .ok { scheme := "file", authority := true, path := .segments (readFilePath rest) }
      else do
        let host ← Host.read name
        let host := if host = .domain "localhost" then none else some host
        pure { scheme := "file", authority := true, host, path := .segments (readFilePath path) }
    else .ok { scheme := "file", authority := true, path := .segments (readFilePath text) }
  | text => .ok { scheme := "file", authority := true, path := .segments (readFilePath text) }

/-- What follows the slashes before an authority, up to query and fragment. -/
def readWithAuthority (scheme : String) (text : List Char) (moreFollows : Bool) : Except ParseError Url := do
  let special := isSpecial scheme
  let authority := text.takeWhile fun c => !endsAuthority special c
  let path := text.dropWhile fun c => !endsAuthority special c
  let (url, rest) ← readAuthority scheme authority (moreFollows || !path.isEmpty)
  pure { url with path := .segments (readPath special false (rest ++ path)) }

/-- What follows the scheme, up to query and fragment. -/
def readAfterScheme (scheme : String) (text : List Char) (moreFollows : Bool) :
    Except ParseError Url :=
  if scheme = "file" then readFile text
  else if isSpecial scheme then readWithAuthority scheme (text.dropWhile (isSlash true)) moreFollows
  else
    match text with
    | '/' :: '/' :: rest => readWithAuthority scheme rest moreFollows
    | '/' :: rest => .ok { scheme, path := .segments (readSegments false false rest) }
    | text => .ok { scheme, path := .rigid (String.ofList (percentEncode .controls text)) }

/-- Reads a url that stands on its own. -/
def parse (text : String) : Except ParseError Url := do
  let chars := clean text.toList
  match readScheme chars with
  | none => throw .missingScheme
  | some (scheme, rest) =>
    let beforeFragment := rest.takeWhile (· != '#')
    let fragment := (rest.dropWhile (· != '#')).drop 1
    let beforeQuery := beforeFragment.takeWhile (· != '?')
    let query := (beforeFragment.dropWhile (· != '?')).drop 1
    let hasFragment := rest.contains '#'
    let hasQuery := beforeFragment.contains '?'
    let url ← readAfterScheme scheme beforeQuery (hasFragment || hasQuery)
    let querySet := if isSpecial scheme then EncodeSet.specialQuery else EncodeSet.query
    pure { url with
      query := if hasQuery then some (String.ofList (percentEncode querySet query)) else none
      fragment :=
        if hasFragment then some (String.ofList (percentEncode .fragment fragment)) else none }

def parse? (text : String) : Option Url := (parse text).toOption

end ProxyWatch.Url
