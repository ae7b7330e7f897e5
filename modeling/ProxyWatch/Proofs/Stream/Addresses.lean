import ProxyWatch.Proofs.Url.Roundtrip
import ProxyWatch.Proofs.Url.Segments
import ProxyWatch.Stream.Address
import ProxyWatch.Proofs.Url.Domains

/-! Where the streams of an endpoint are.

An address is made for the schemes of the web and no others: their urls have a host and a path of segments, so
that neither the change of scheme nor the segments put on can fail. -/
namespace ProxyWatch.Stream
open Url

variable {endpoint name scheme other : String} {url address : Url}

section Hosts
variable {text : List Char} {more : Bool}

private theorem isBase_of_readAfterScheme [Url.Idna] (read : readAfterScheme scheme text more = .ok url) :
    url.scheme = scheme ∧ (isSpecial scheme = true → url.isBase = true) := by
  have placed (known : url.scheme = scheme ∧ ∃ path, IsPlaced url path) :
      url.scheme = scheme ∧ (isSpecial scheme = true → url.isBase = true) := by
    obtain ⟨same, path, known⟩ := known
    exact ⟨same, fun _ => by rw [isBase, known.based]⟩
  unfold readAfterScheme at read
  split at read
  · rename_i file
    exact placed (file ▸ isPlaced_of_readFile read)
  · rename_i file
    split at read
    · exact placed (isPlaced_of_readWithAuthority file read)
    · rename_i plain
      split at read
      · exact placed (isPlaced_of_readWithAuthority file read)
      · cases read
        exact ⟨rfl, fun special => absurd special plain⟩
      · cases read
        exact ⟨rfl, fun special => absurd special plain⟩

private theorem isHosted_of_parse [Url.Idna] {text : String} (read : Url.parse text = .ok url)
    (special : isSpecial url.scheme = true) (file : url.scheme ≠ "file") :
    (∃ host, url.host = some host) ∧ ∃ path, url.path = .segments path := by
  have isBase : url.isBase = true := by
    unfold Url.parse at read
    dsimp only at read
    split at read
    · cases read
    · obtain ⟨place, placed, read⟩ := bind_eq_ok read
      cases read
      obtain ⟨rfl, isBase⟩ := isBase_of_readAfterScheme placed
      exact isBase special
  obtain ⟨path, known⟩ := isNormal_of_parse read isBase
  obtain file_ | authority | plain := known.kind
  · exact absurd file_.scheme file
  · refine ⟨Option.ne_none_iff_exists'.mp fun missing => ?_, path, known.based⟩
    have plain := (authority.missing missing).1
    rw [special] at plain
    cases plain
  · have plain := plain.scheme
    rw [special] at plain
    cases plain

end Hosts

/-- The schemes of the endpoints that have streams. -/
def webSchemes : List String := ["http", "https", "ws", "wss"]

theorem socketScheme?_isSome_iff : (∃ other, socketScheme? scheme = some other) ↔ scheme ∈ webSchemes := by
  constructor
  · rintro ⟨other, known⟩
    unfold socketScheme? at known
    split at known
    · decide
    · decide
    · decide
    · decide
    · cases known
  · exact (show ∀ scheme ∈ webSchemes, ∃ other, socketScheme? scheme = some other by
      simp [webSchemes, socketScheme?]) scheme

private theorem socketScheme?_spec (known : socketScheme? scheme = some other) :
    isSpecial scheme = true ∧ isSpecial other = true ∧ other ≠ "file" ∧ defaultPort? other = defaultPort? scheme := by
  unfold socketScheme? at known
  split at known <;> cases known <;> decide

/-- A url of the web has a host, and segments can be put on its path. -/
theorem isHosted_of_web [Url.Idna] (read : Url.parse? endpoint = some url) (web : url.scheme ∈ webSchemes) :
    (∃ host, url.host = some host) ∧ ∃ path, url.path = .segments path := by
  have known : ∀ scheme ∈ webSchemes, isSpecial scheme = true ∧ scheme ≠ "file" := by decide
  exact isHosted_of_parse (toOption_eq_some_iff.mp read) (known _ web).1 (known _ web).2

/-- A stream's address is at the place of an endpoint's url, below its path. -/
structure IsStreamOf (url : Url) (name : String) (address : Url) : Prop where
  scheme : socketScheme? url.scheme = some address.scheme
  username : address.username = url.username
  password : address.password = url.password
  host : address.host = url.host
  port : address.effectivePort? = url.effectivePort?
  path : ∃ path, url.path = .segments path ∧ address.path = .segments (stem path ++ ["api", "v1", "ws", name])
  fragment : address.fragment = none

theorem IsStreamOf.appendPair (known : IsStreamOf url name address) (key value : String) :
    IsStreamOf url name (address.appendPair key value) :=
  ⟨known.scheme, known.username, known.password, known.host, known.port, known.path, known.fragment⟩

private theorem setScheme?_socketScheme {host : Url.Host} (known : socketScheme? url.scheme = some other)
    (found : url.host = some host) : ∃ port, url.setScheme? other = some { url with scheme := other, port } ∧
      port.or (defaultPort? other) = url.effectivePort? := by
  obtain ⟨special, special_, file, same⟩ := socketScheme?_spec known
  refine ⟨if url.port.isSome ∧ url.port = defaultPort? other then none else url.port,
    by simp [setScheme?, special, special_, file, found], ?_⟩
  rw [effectivePort?, same]
  split
  · rename_i default
    rw [default.2]
    simp
  · rfl

/-- A stream of a web endpoint has an address. -/
theorem isStreamOf_of_parse [Url.Idna] (read : Url.parse? endpoint = some url) (web : url.scheme ∈ webSchemes)
    (word : IsWord name) : ∃ address, address? endpoint name = some address ∧ IsStreamOf url name address ∧
      address.query = none := by
  obtain ⟨other, known⟩ := socketScheme?_isSome_iff.mpr web
  obtain ⟨⟨host, found⟩, path, based⟩ := isHosted_of_web read web
  obtain ⟨port, changed, effective⟩ := setScheme?_socketScheme known found
  have words : ∀ word ∈ ["v1", "ws", name], IsWord word := by
    simpa using ⟨by decide, by decide, word⟩
  have added := foldl_addSegment_words (isSpecial other) path (show IsWord "api" by decide) words
  refine ⟨{
    url with
    scheme := other
    port
    path := .segments (stem path ++ ["api", "v1", "ws", name])
    query := none
    fragment := none }, ?_, ⟨known, rfl, rfl, rfl, effective, ⟨path, based, rfl⟩, rfl⟩, rfl⟩
  simp only [address?, read, known, changed, withoutQuery, extend?, based, added, Option.bind_eq_bind,
    Option.bind_some]

example : (address? "https://u@h:443/base/?q" "log").map Url.toText = some "wss://u@h/base/api/v1/ws/log" := by
  decide +kernel

/-- No other url has an address. -/
theorem parse?_of_address? [Url.Idna] (made : address? endpoint name = some address) :
    ∃ url, Url.parse? endpoint = some url ∧ url.scheme ∈ webSchemes := by
  unfold address? at made
  obtain ⟨url, read, made⟩ := Option.bind_eq_some_iff.mp made
  obtain ⟨other, known, made⟩ := Option.bind_eq_some_iff.mp made
  exact ⟨url, read, socketScheme?_isSome_iff.mp ⟨other, known⟩⟩

theorem address?_isSome_iff [Url.Idna] (word : IsWord name) : (∃ address, address? endpoint name = some address) ↔
    ∃ url, Url.parse? endpoint = some url ∧ url.scheme ∈ webSchemes := by
  constructor
  · rintro ⟨address, made⟩
    exact parse?_of_address? made
  · rintro ⟨url, read, web⟩
    obtain ⟨address, made, -⟩ := isStreamOf_of_parse read web word
    exact ⟨address, made⟩

/-- A text without the slash at its end, if there is one. -/
def withoutSlash (text : List Char) : List Char := if text.getLast? = some '/' then text.dropLast else text

/-- The query that a connection stream is asked for with. -/
def connectionQuery (withoutConnections : Bool) : String :=
  if withoutConnections then "patch=true&without_connections=true" else "patch=true"

/-- The address of a stream of an endpoint, by its parts. The root of two slashes is left out. -/
structure IsAddressOf (url : Url) (name : String) (query : Option String) (address : Url) : Prop where
  scheme : address.scheme = if url.scheme ∈ ["http", "ws"] then "ws" else "wss"
  username : address.username = url.username
  password : address.password = url.password
  host : address.host = url.host
  port : address.effectivePort? = url.effectivePort?
  path : url.path.toText ≠ "//" →
    address.path.toText.toList = withoutSlash url.path.toText.toList ++ s!"/api/v1/ws/{name}".toList
  query : address.query = query
  fragment : address.fragment = none

private theorem stem_ne_of_empty_last (front : List String) : stem (front ++ [""]) ≠ front ++ [""] := by
  have shorter : (stem (front ++ [""])).length ≤ front.length := by
    unfold stem dropEmptyLast
    cases front with
    | nil => decide
    | cons first rest =>
      have ended : 2 ≤ (first :: rest ++ [""]).length ∧ (first :: rest ++ [""]).getLast? = some "" :=
        ⟨by simp, List.getLast?_concat⟩
      rw [if_pos ended, List.dropLast_concat]
      split
      · exact Nat.zero_le _
      · exact Nat.le_refl _
  intro same
  rw [same, List.length_append, List.length_singleton] at shorter
  omega

theorem getLast?_pathChars_concat (front : List String) {last : String} (some : last ≠ "") :
    (pathChars (front ++ [last])).getLast? = last.toList.getLast? := by
  have letters : last.toList ≠ [] := by simpa using some
  simp [pathChars, List.getLast?_cons, List.getLast?_eq_some_getLast letters]

private theorem pathChars_stem {special : Bool} {path : List String}
    (known : ∀ segment ∈ path, IsSegment special segment) (regular : path ≠ ["", ""]) :
    pathChars (stem path) = withoutSlash (pathChars path) := by
  obtain whole | whole | ⟨root, -⟩ := stem_cases path
  · have unslashed : (pathChars path).getLast? ≠ some '/' := by
      rcases List.eq_nil_or_concat path with rfl | ⟨front, last, rfl⟩
      · simp [pathChars]
      · rw [List.concat_eq_append] at whole known ⊢
        have some : last ≠ "" := by
          rintro rfl
          exact stem_ne_of_empty_last front whole.symm
        rw [getLast?_pathChars_concat front some]
        intro ended
        have other := ((known last (by simp)).kept '/' (List.mem_of_getLast? ended)).2
        simp [isSlash] at other
    rw [withoutSlash, if_neg unslashed, ← whole]
  · have slashed : pathChars path = pathChars (stem path) ++ ['/'] :=
      (congrArg pathChars whole).trans (pathChars_append _ _)
    rw [withoutSlash, slashed, if_pos (by simp), List.dropLast_concat]
  · exact absurd root regular

private theorem socketScheme?_eq (known : socketScheme? scheme = some other) :
    other = if scheme ∈ ["http", "ws"] then "ws" else "wss" := by
  unfold socketScheme? at known
  split at known <;> cases known <;> decide

/-- What is known of an address by its segments tells what it is by its text. -/
theorem IsStreamOf.isAddressOf [Url.Idna] (known : IsStreamOf url name address)
    (read : Url.parse? endpoint = some url) :
    IsAddressOf url name address.query address where
  scheme := socketScheme?_eq known.scheme
  username := known.username
  password := known.password
  host := known.host
  port := known.port
  path regular := by
    obtain ⟨path, based, placed⟩ := known.path
    have isBase : url.isBase = true := by rw [isBase, based]
    obtain ⟨path', normal⟩ := isNormal_of_parse (toOption_eq_some_iff.mp read) isBase
    obtain rfl : path' = path := by simpa [based] using normal.based.symm
    have regular : path' ≠ ["", ""] := by
      rintro rfl
      rw [based] at regular
      exact regular (by decide)
    rw [placed, based, toText_segments, toText_segments, pathChars_append, pathChars_stem normal.segments regular]
    simp [pathChars, toString]
  query := rfl
  fragment := known.fragment

theorem logAddress_eq_ok_iff [Url.Idna] :
    logAddress endpoint = .ok address ↔ address? endpoint "log" = some address := by
  unfold logAddress Stream.address
  cases address? endpoint "log" <;> simp

theorem connectionAddress_eq_ok_iff [Url.Idna] {withoutConnections : Bool}
    (bare : ∀ address, address? endpoint "connection" = some address → address.query = none) :
    connectionAddress endpoint withoutConnections = .ok address ↔ ∃ plain, address? endpoint "connection" =
      some plain ∧ address = { plain with query := some (connectionQuery withoutConnections) } := by
  unfold connectionAddress Stream.address
  cases found : address? endpoint "connection" with
  | none => simp [Except.map]
  | some plain =>
    have first : plain.appendPair "patch" "true" = { plain with query := some "patch=true" } := by
      rw [appendPair, bare plain found]
      congr 2
    cases withoutConnections with
    | false => simp [Except.map, first, connectionQuery, eq_comm]
    | true =>
      have second : ({ plain with query := some "patch=true" } : Url).appendPair "without_connections" "true" =
          { plain with query := some "patch=true&without_connections=true" } := rfl
      simp [Except.map, first, second, connectionQuery, eq_comm]

/-- The streams of an endpoint have addresses exactly if it is a url of one of the web's schemes. They are at the
place of the endpoint, below its path, and have a query of their own instead of the endpoint's. -/
theorem addresses_of_endpoint [Url.Idna] (endpoint : String) (withoutConnections : Bool) :
    ((∃ address, connectionAddress endpoint withoutConnections = .ok address) ↔
      ∃ url, Url.parse? endpoint = some url ∧ url.scheme ∈ webSchemes) ∧
    ((∃ address, logAddress endpoint = .ok address) ↔
      ∃ url, Url.parse? endpoint = some url ∧ url.scheme ∈ webSchemes) ∧
    ∀ url, Url.parse? endpoint = some url →
      (∀ address, connectionAddress endpoint withoutConnections = .ok address →
        IsAddressOf url "connection" (some (connectionQuery withoutConnections)) address) ∧
      ∀ address, logAddress endpoint = .ok address → IsAddressOf url "log" none address := by
  have words : IsWord "connection" ∧ IsWord "log" := ⟨by decide, by decide⟩
  -- the address of a stream, where there is one, is the one that is made for its endpoint's url
  have made {name : String} (word : IsWord name) {url address : Url} (read : Url.parse? endpoint = some url)
      (found : address? endpoint name = some address) : IsStreamOf url name address ∧ address.query = none := by
    obtain ⟨url', read', web⟩ := parse?_of_address? found
    obtain rfl : url' = url := Option.some.inj (read'.symm.trans read)
    obtain ⟨address', found', known⟩ := isStreamOf_of_parse read web word
    obtain rfl : address' = address := Option.some.inj (found'.symm.trans found)
    exact known
  have bare (address : Url) (found : address? endpoint "connection" = some address) : address.query = none := by
    obtain ⟨url, read, -⟩ := parse?_of_address? found
    exact (made words.1 read found).2
  refine ⟨?_, ?_, fun url read => ⟨fun address asked => ?_, fun address asked => ?_⟩⟩
  · simp only [connectionAddress_eq_ok_iff bare, ← address?_isSome_iff words.1]
    exact ⟨fun ⟨_, plain, found, _⟩ => ⟨plain, found⟩, fun ⟨plain, found⟩ => ⟨_, plain, found, rfl⟩⟩
  · simp only [logAddress_eq_ok_iff, address?_isSome_iff words.2]
  · obtain ⟨plain, found, rfl⟩ := (connectionAddress_eq_ok_iff bare).mp asked
    have known := (made words.1 read found).1.isAddressOf read
    exact { known with query := rfl }
  · have found := logAddress_eq_ok_iff.mp asked
    obtain ⟨known, none⟩ := made words.2 read found
    exact none ▸ known.isAddressOf read

/-- An endpoint with all the parts that a url can have, and two slashes at the end of its path. -/
theorem addresses_of_endpoint_below_path :
    let endpoint := "HTTPS://u:p@h:8443/base//?patch=false#top"
    ∃ url address, Url.parse? endpoint = some url ∧ url.scheme ∈ webSchemes ∧
      connectionAddress endpoint true = .ok address ∧
      IsAddressOf url "connection" (some "patch=true&without_connections=true") address ∧
      address.toText =
        "wss://u:p@h:8443/base//api/v1/ws/connection?patch=true&without_connections=true" := by
  intro endpoint
  let url : Url :=
    { scheme := "https", username := "u", password := some "p", authority := true, host := some (.domain "h"),
      port := some 8443, path := .segments ["base", "", ""], query := some "patch=false", fragment := some "top" }
  have read : Url.parse? endpoint = some url := by decide +kernel
  obtain ⟨served, -, placed⟩ := addresses_of_endpoint endpoint true
  obtain ⟨address, made⟩ := served.mpr ⟨url, read, by decide⟩
  have text : (connectionAddress endpoint true).toOption.map Url.toText =
      some "wss://u:p@h:8443/base//api/v1/ws/connection?patch=true&without_connections=true" := by decide +kernel
  refine ⟨url, address, read, by decide, made, (placed url read).1 address made, ?_⟩
  rw [made] at text
  exact Option.some.inj text

end ProxyWatch.Stream
