import ProxyWatch.Proofs.Url.Authority
import ProxyWatch.Proofs.Url.Paths

/-! Every url that is read, and that a path can be put on, is read back from its text. -/
namespace ProxyWatch.Url
variable {url : Url} {path : List String} {scheme : String} {text body rest : List Char} {c : Char}

/-- A scheme as it is read and written. -/
structure IsScheme (scheme : String) : Prop where
  letter : ∃ first more, scheme.toList = first :: more ∧ first.isAlpha = true
  chars : ∀ c ∈ scheme.toList, isSchemeChar c = true ∧ c.toLower = c

/-- What is encoded in the query of a url. -/
def querySet (scheme : String) : EncodeSet := if isSpecial scheme then .specialQuery else .query

/-- A query as it is read and written. -/
def IsQuery (scheme : String) (query : Option String) : Prop :=
  ∀ text ∈ query, ∀ c ∈ text.toList, (querySet scheme).Keeps c

/-- A fragment as it is read and written. -/
def IsFragment (fragment : Option String) : Prop :=
  ∀ text ∈ fragment, ∀ c ∈ text.toList, EncodeSet.fragment.Keeps c

theorem isQuery_none (scheme : String) : IsQuery scheme none := nofun

theorem isFragment_none : IsFragment none := nofun

/-- A file url has at most a host. -/
structure IsFile [Idna] (url : Url) (path : List String) : Prop where
  scheme : url.scheme = "file"
  authority : url.authority = true
  username : url.username = ""
  password : url.password = none
  port : url.port = none
  host : ∀ host ∈ url.host,
    Host.read host.toText = .ok host ∧ Host.Stands host.toText ∧ host ≠ .domain "localhost"
  path : IsFilePath path

/-- A url with any other authority. -/
structure HasAuthority [Idna] (url : Url) (path : List String) : Prop extends IsAuthority url where
  scheme : url.scheme ≠ "file"
  path : isSpecial url.scheme = true → path ≠ []

/-- A url with only a path. -/
structure HasPath (url : Url) (path : List String) : Prop where
  scheme : isSpecial url.scheme = false
  authority : url.authority = false
  username : url.username = ""
  password : url.password = none
  host : url.host = none
  port : url.port = none
  path : path ≠ []

/-- A url with a path, up to its query. -/
structure IsPlaced [Idna] (url : Url) (path : List String) : Prop where
  based : url.path = .segments path
  segments : ∀ segment ∈ path, IsSegment (isSpecial url.scheme) segment
  kind : IsFile url path ∨ HasAuthority url path ∨ HasPath url path

/-- A url with a path, as it is read and written. -/
structure IsNormal [Idna] (url : Url) (path : List String) : Prop extends IsPlaced url path where
  scheme : IsScheme url.scheme
  query : IsQuery url.scheme url.query
  fragment : IsFragment url.fragment

section Texts

private theorem clean_of_plain (plain : ∀ c ∈ text, 0x20 < c.toNat) : clean text = text := by
  have inner (c : Char) (member : c ∈ text) : decide (c.toNat ≤ 0x20) = false :=
    decide_eq_false (Nat.not_le.mpr (plain c member))
  have trimmed : ((text.dropWhile (fun c => decide (c.toNat ≤ 0x20))).reverse.dropWhile
      (fun c => decide (c.toNat ≤ 0x20))).reverse = text := by
    rw [dropWhile_of_head fun c head => inner c (List.mem_of_mem_head? head),
      dropWhile_of_head fun c head => inner c (List.mem_reverse.mp (List.mem_of_mem_head? head)),
      List.reverse_reverse]
  rw [clean, trimmed, List.filter_eq_self]
  intro c member
  have other (mark : Char) (low : mark.toNat ≤ 0x20) : c ≠ mark := by
    rintro rfl
    exact Nat.not_le.mpr (plain c member) low
  simp [other '\t' (by decide), other '\n' (by decide), other '\r' (by decide)]

/-- A part of a text with its mark. -/
def marked (mark : Char) (part : Option String) : List Char := part.elim [] fun part => mark :: part.toList

theorem marked_none (mark : Char) : marked mark none = [] := rfl

theorem head_marked (mark : Char) (part : Option String) : ∀ c ∈ (marked mark part).head?, c = mark := by
  cases part with
  | none => nofun
  | some part => exact fun c same => (Option.some.inj same).symm

theorem toText_toList (based : url.path = .segments path) :
    url.toText.toList = url.scheme.toList ++ ':' ::
      (url.authorityText.toList ++ pathChars path ++ marked '?' url.query ++ marked '#' url.fragment) := by
  have part (sign : String) (mark : Char) (same : sign.toList = [mark]) (part : Option String) :
      ((part.map (sign ++ ·)).getD "").toList = marked mark part := by
    cases part with
    | none => rfl
    | some part => simp [marked, same]
  rw [toText, String.toList_append, part "#" '#' rfl, target, ← part "?" '?' rfl, ← toText_segments, based]
  simp [toString]

end Texts

section Parts

theorem bounds_of_isSchemeChar (known : isSchemeChar c = true) : 0x20 < c.toNat ∧ c.toNat < 128 := by
  simp only [isSchemeChar, Bool.or_eq_true, beq_iff_eq] at known
  obtain ((alphanum | rfl) | rfl) | rfl := known
  · obtain ⟨low, high⟩ := bounds_of_isAlphanum alphanum
    exact ⟨low, by omega⟩
  · decide
  · decide
  · decide

theorem toLower_of_isSchemeChar (known : isSchemeChar c = true) :
    isSchemeChar c.toLower = true ∧ (c.isAlpha = true → c.toLower.isAlpha = true) := by
  have all : ∀ n < 128, isSchemeChar (Char.ofNat n) = true → isSchemeChar (Char.ofNat n).toLower = true ∧
      ((Char.ofNat n).isAlpha = true → (Char.ofNat n).toLower.isAlpha = true) := by decide +kernel
  have numbered : isSchemeChar (Char.ofNat c.toNat) = true := by rwa [Char.ofNat_toNat]
  simpa [Char.ofNat_toNat] using all c.toNat (bounds_of_isSchemeChar known).2 numbered

private theorem isScheme_of_readScheme (read : readScheme text = some (scheme, rest)) : IsScheme scheme := by
  unfold readScheme at read
  split at read
  · cases read
  · rename_i first others
    split at read
    · rename_i letter
      have first_ : isSchemeChar first = true := by simp [isSchemeChar, Char.isAlphanum, letter]
      split at read
      · cases read
        refine ⟨⟨first.toLower, (others.takeWhile isSchemeChar).map Char.toLower, ?_,
          (toLower_of_isSchemeChar first_).2 letter⟩, fun c member => ?_⟩
        · rw [String.toList_ofList, List.takeWhile_cons, if_pos first_, List.map_cons]
        · rw [String.toList_ofList] at member
          obtain ⟨d, within, rfl⟩ := List.mem_map.mp member
          have known := List.all_eq_true.mp (List.all_takeWhile (p := isSchemeChar)) d within
          exact ⟨(toLower_of_isSchemeChar known).1, Text.toLower_toLower d⟩
      · cases read
    · cases read

theorem readScheme_append (known : IsScheme scheme) (rest : List Char) :
    readScheme (scheme.toList ++ ':' :: rest) = some (scheme, rest) := by
  obtain ⟨first, more, chars, letter⟩ := known.letter
  obtain ⟨taken, dropped⟩ := span_append (':' :: rest) (fun c member => (known.chars c member).1)
    fun c head => by cases head; decide
  have lowered : scheme.toList.map Char.toLower = scheme.toList :=
    (List.map_congr_left fun c member => (known.chars c member).2).trans (List.map_id _)
  have shape : scheme.toList ++ ':' :: rest = first :: (more ++ ':' :: rest) := by rw [chars, List.cons_append]
  rw [shape] at taken dropped ⊢
  simp only [readScheme, taken, dropped, letter, lowered, if_true, String.ofList_toList]

theorem mem_marked {mark : Char} {part : Option String} (member : c ∈ marked mark part) :
    c = mark ∨ ∃ text ∈ part, c ∈ text.toList := by
  cases part with
  | none => cases member
  | some part =>
    obtain rfl | within := List.mem_cons.mp member
    · exact .inl rfl
    · exact .inr ⟨part, rfl, within⟩

private theorem marks_mem_querySet (scheme : String) :
    ' ' ∈ (querySet scheme).members ∧ '#' ∈ (querySet scheme).members := by
  unfold querySet
  split <;> decide

theorem read_marked (mark : Char) {part : Option String} {set : EncodeSet}
    (kept : ∀ text ∈ part, ∀ c ∈ text.toList, set.Keeps c) :
    (if part.isSome then some (String.ofList (percentEncode set ((marked mark part).drop 1))) else none) = part := by
  cases part with
  | none => rfl
  | some text =>
    have same : percentEncode set ((marked mark (some text)).drop 1) = text.toList :=
      percentEncode_of_keeps (kept text rfl)
    rw [same, String.ofList_toList]
    rfl

theorem contains_append_marked {mark : Char} {part : Option String} (absent : mark ∉ text) :
    (text ++ marked mark part).contains mark = part.isSome := by
  cases part with
  | none => simpa [marked] using absent
  | some part => simp [marked]

/-- A url is read by its parts. -/
theorem parse_of_parts [Idna] {text : String} {query fragment : Option String} (known : IsScheme scheme)
    (written : text.toList = scheme.toList ++ ':' :: (body ++ marked '?' query ++ marked '#' fragment))
    (plain : ∀ c ∈ body, 0x20 < c.toNat ∧ c ∉ ['?', '#']) (asked : IsQuery scheme query)
    (named : IsFragment fragment) (read : ∀ more, readAfterScheme scheme body more = .ok url) :
    parse text = .ok { url with query, fragment } := by
  have ⟨blank, hash⟩ := marks_mem_querySet scheme
  have whole : clean text.toList = text.toList := by
    refine clean_of_plain fun c member => ?_
    rw [written] at member
    obtain inScheme | rfl | (inBody | inQuery) | inFragment : c ∈ scheme.toList ∨ c = ':' ∨
        (c ∈ body ∨ c ∈ marked '?' query) ∨ c ∈ marked '#' fragment := by
      simpa only [List.mem_append, List.mem_cons] using member
    · exact (bounds_of_isSchemeChar (known.chars c inScheme).1).1
    · decide
    · exact (plain c inBody).1
    · obtain rfl | ⟨text, found, within⟩ := mem_marked inQuery
      · decide
      · exact (asked text found c within).blank_lt blank
    · obtain rfl | ⟨text, found, within⟩ := mem_marked inFragment
      · decide
      · exact (named text found c within).blank_lt (by decide)
  have unasked : '?' ∉ body := fun member => (plain _ member).2 (by simp)
  have unnamed : '#' ∉ body ++ marked '?' query := by
    intro member
    obtain inBody | inQuery := List.mem_append.mp member
    · exact (plain _ inBody).2 (by simp)
    · obtain same | ⟨text, found, within⟩ := mem_marked inQuery
      · exact absurd same (by decide)
      · exact (asked text found _ within).2.2 hash
  obtain ⟨beforeFragment, fromFragment⟩ := span_mark unnamed (head_marked '#' fragment)
  obtain ⟨beforeQuery, fromQuery⟩ := span_mark unasked (head_marked '?' query)
  rw [written] at whole
  unfold parse
  simp only [written, whole, readScheme_append known, beforeFragment, fromFragment, beforeQuery, fromQuery,
    contains_append_marked unnamed, contains_append_marked unasked, read]
  have query_ := read_marked '?' asked
  have fragment_ := read_marked '#' named
  unfold querySet at query_
  simp only [bind, Except.bind, pure, Except.pure]
  rw [query_, fragment_]

end Parts

section Kinds

private theorem readAfterScheme_file [Idna] (text : List Char) (more : Bool) :
    readAfterScheme "file" text more = readFile text := rfl

private theorem ne_file_of_not_special (plain : isSpecial scheme = false) : scheme ≠ "file" := by
  rintro rfl
  exact absurd plain (by decide)

theorem head_pathChars : ∀ c ∈ (pathChars path).head?, c = '/' := by
  cases path with
  | nil => nofun
  | cons first rest => exact fun c same => (Option.some.inj same).symm

theorem not_isSlash_of_not_mem {special : Bool} (other : c ∉ ['/', '\\']) : isSlash special c = false := by
  have ⟨slash, backslash⟩ : c ≠ '/' ∧ c ≠ '\\' := by simpa using other
  simp [isSlash, slash, backslash]

private theorem not_isDriveLetter_of_stands (stands : Host.Stands text) :
    isDriveLetter (String.ofList text) = false := by
  refine eq_false_of_ne_true fun drive => ?_
  unfold isDriveLetter at drive
  split at drive
  · rename_i letter mark same
    rw [String.toList_ofList] at same
    obtain ⟨alpha, sign⟩ : letter.isAlpha = true ∧ (mark = ':' ∨ mark = '|') := by simpa using drive
    cases stands with
    | plain _ all =>
      have ⟨inner, other⟩ := all mark (by simp [same])
      obtain rfl | rfl := sign
      · exact other rfl
      · exact inner.2 (by simp)
    | bracketed all =>
      obtain rfl : '[' = letter := (List.cons.inj same).1
      exact absurd alpha (by decide)
  · cases drive

namespace IsFile
variable [Idna] (known : IsFile url path)
include known

theorem authorityText_toList : url.authorityText.toList = '/' :: '/' :: url.hostText.toList := by
  rw [Url.authorityText_toList known.authority, authorityChars, credentials, portChars, known.username, known.password,
    known.port]
  simp

theorem mem_hostText (member : c ∈ url.hostText.toList) : 0x20 < c.toNat ∧ c ∉ ['/', '\\', '?', '#', '@'] := by
  cases found : url.host with
  | none =>
    rw [hostText_of_missing found] at member
    cases member
  | some host =>
    rw [hostText_of_host found] at member
    exact (known.host host found).2.1.mem member

theorem hostText_eq_nil_iff : url.hostText.toList = [] ↔ url.host = none := by
  constructor
  · intro empty
    cases found : url.host with
    | none => rfl
    | some host =>
      rw [hostText_of_host found] at empty
      exact absurd (empty ▸ (known.host host found).2.1) Host.not_stands_nil
  · exact hostText_of_missing

/-- A file url is read back up to its query. -/
theorem readAfterScheme_toText (based : url.path = .segments path)
    (segments : ∀ segment ∈ path, IsSegment (isSpecial url.scheme) segment) (more : Bool) :
    readAfterScheme url.scheme (url.authorityText.toList ++ pathChars path) more =
      .ok { url with query := none, fragment := none } := by
  have unslashed : ∀ c ∈ url.hostText.toList, (!isSlash true c) = true := fun c member => by
    have other (among : c ∈ ['/', '\\']) := (known.mem_hostText member).2 (List.mem_append_left ['?', '#', '@'] among)
    simp [not_isSlash_of_not_mem other]
  obtain ⟨name, rest⟩ := span_append (pathChars path) unslashed
    fun c head => by rw [head_pathChars c head]; rfl
  rw [known.scheme] at segments
  have path_ := readFilePath_pathChars known.path segments
  rw [known.authorityText_toList]
  obtain ⟨scheme, username, password, authority, host, port, path', query, fragment⟩ := url
  obtain ⟨rfl, rfl, rfl, rfl, rfl, hosts, -⟩ := known
  subst based
  rw [readAfterScheme_file]
  have slashes : (isSlash true '/' && isSlash true '/') = true := rfl
  simp only [readFile, List.cons_append, slashes, if_true, name, rest, path_]
  cases host with
  | none => rfl
  | some host =>
    obtain ⟨read, stands, other⟩ := hosts host rfl
    have some_ : host.toText ≠ [] := fun none => Host.not_stands_nil (none ▸ stands)
    simp [hostText, some_, not_isDriveLetter_of_stands stands, read, other, bind, Except.bind, pure, Except.pure]

end IsFile

namespace HasAuthority
variable [Idna] {special : Bool} (known : HasAuthority url path)
include known

theorem not_isSlash (member : c ∈ url.authorityChars) : isSlash special c = false :=
  not_isSlash_of_not_mem fun among => (known.mem_authorityChars member).2 (List.mem_append_left ['?', '#'] among)

/-- Only a missing host has no text. -/
theorem authorityChars_eq_nil_iff : url.authorityChars = [] ↔ url.host = none := by
  constructor
  · intro empty
    cases found : url.host with
    | none => rfl
    | some host =>
      have text := (List.append_eq_nil_iff.mp (List.append_eq_nil_iff.mp empty).1).2
      rw [hostText_of_host found] at text
      exact absurd (text ▸ (known.host host found).2) Host.not_stands_nil
  · intro missing
    obtain ⟨-, username, password, port⟩ := known.missing missing
    simp [authorityChars, credentials, portChars, username, password, port, hostText_of_missing missing]

private theorem readWithAuthority_toText (based : url.path = .segments path)
    (segments : ∀ segment ∈ path, IsSegment (isSpecial url.scheme) segment) (more : Bool) :
    readWithAuthority url.scheme (url.authorityChars ++ pathChars path) more =
      .ok { url with query := none, fragment := none } := by
  have unended : ∀ c ∈ url.authorityChars, (!endsAuthority (isSpecial url.scheme) c) = true := by
    intro c member
    have other := (known.mem_authorityChars member).2
    have question : c ≠ '?' := fun same => other (by simp [same])
    have hash : c ≠ '#' := fun same => other (by simp [same])
    simp [endsAuthority, known.not_isSlash member, question, hash]
  obtain ⟨authority, rest⟩ := span_append (pathChars path) unended
    fun c head => by rw [head_pathChars c head]; cases isSpecial url.scheme <;> rfl
  have path_ : readPath (isSpecial url.scheme) false (pathChars path) = path := by
    by_cases empty : path = []
    · have plain : isSpecial url.scheme = false := eq_false_of_ne_true fun special => known.path special empty
      rw [empty, plain]
      rfl
    · exact readPath_pathChars empty segments
  have read := known.toIsAuthority.readAuthority_authorityChars (more || !(pathChars path).isEmpty)
  simp only [readWithAuthority, authority, rest, read, bind, Except.bind, pure, Except.pure, List.nil_append, path_,
    ← based]

/-- A url with an authority is read back up to its query. -/
theorem readAfterScheme_toText (based : url.path = .segments path)
    (segments : ∀ segment ∈ path, IsSegment (isSpecial url.scheme) segment) (more : Bool) :
    readAfterScheme url.scheme (url.authorityText.toList ++ pathChars path) more =
      .ok { url with query := none, fragment := none } := by
  have read := known.readWithAuthority_toText based segments more
  rw [authorityText_toList known.authority, List.cons_append, List.cons_append]
  unfold readAfterScheme
  rw [if_neg known.scheme]
  by_cases special : isSpecial url.scheme = true
  · have stop : ∀ c ∈ (url.authorityChars ++ pathChars path).head?, isSlash true c = false := by
      have host : url.host ≠ none := fun missing => by simp [(known.missing missing).1] at special
      obtain ⟨first, others, chars⟩ := List.exists_cons_of_ne_nil (mt known.authorityChars_eq_nil_iff.mp host)
      have member : first ∈ url.authorityChars := by rw [chars]; exact List.mem_cons_self
      intro c head
      rw [chars] at head
      cases head
      exact known.not_isSlash member
    have dropped : ('/' :: '/' :: (url.authorityChars ++ pathChars path)).dropWhile (isSlash true) =
        url.authorityChars ++ pathChars path := dropWhile_of_head stop
    rw [if_pos special, dropped, read]
  · rw [if_neg special]
    exact read

end HasAuthority

/-- A dot at the start of a path stands for no segment. -/
theorem readSegments_dot (text : List Char) :
    readSegments false false ('.' :: '/' :: text) = readSegments false false text := by
  have dot : pushSegment false [] (String.ofList (percentEncode .path ['.'])) false = [] := by decide +kernel
  obtain ⟨first, others, parts⟩ := List.exists_cons_of_ne_nil
    (splitOn_ne_nil '/' (text.map fun c => if isSlash false c then '/' else c))
  have split : splitOn '/' (('.' :: '/' :: text).map fun c => if isSlash false c then '/' else c) =
      ['.'] :: first :: others := by
    rw [← parts]
    exact splitOn_append (show '/' ∉ ['.'] by decide) _
  rw [readSegments, readSegments, split, parts, List.map_cons, List.map_cons, pushAll, dot]
  exact List.cons_ne_nil _ _

theorem head_joinWith (known : ∀ segment ∈ path, IsSegment false segment)
    (other : ∀ next rest, path ≠ "" :: next :: rest) :
    ∀ c ∈ (joinWith ['/'] (path.map String.toList)).head?, c ≠ '/' := by
  have unslashed (segment : String) (member : segment ∈ path) (c : Char) (within : c ∈ segment.toList) : c ≠ '/' := by
    rintro rfl
    exact absurd ((known segment member).kept _ within).2 (by decide)
  intro c head
  cases path with
  | nil => cases head
  | cons first rest =>
    refine unslashed first List.mem_cons_self c (List.mem_of_mem_head? ?_)
    cases rest with
    | nil => exact head
    | cons next rest =>
      have some_ : first.toList ≠ [] := fun empty => other next rest (by rw [String.toList_eq_nil_iff.mp empty])
      obtain ⟨d, others, chars⟩ := List.exists_cons_of_ne_nil some_
      simpa [joinWith, chars] using head

theorem readAfterScheme_slash [Idna] {more : Bool} (plain : isSpecial scheme = false)
    (other : ∀ c ∈ text.head?, c ≠ '/') :
    readAfterScheme scheme ('/' :: text) more = .ok { scheme, path := .segments (readSegments false false text) } := by
  unfold readAfterScheme
  rw [if_neg (ne_file_of_not_special plain), if_neg (by simp [plain])]
  split
  · rename_i rest same
    cases same
    exact absurd rfl (other '/' rfl)
  · rename_i rest _ same
    cases same
    rfl
  · rename_i _ single
    exact absurd rfl (single text)

namespace HasPath
variable (known : HasPath url path)
include known

/-- A path that begins with two slashes stands behind a dot, as it would be an authority. -/
theorem authorityText_eq (based : url.path = .segments path) :
    (∃ next rest, path = "" :: next :: rest) ∧ url.authorityText = "/." ∨
      (∀ next rest, path ≠ "" :: next :: rest) ∧ url.authorityText = "" := by
  unfold authorityText
  rw [known.authority, if_neg Bool.false_ne_true, based]
  split
  · rename_i next rest same
    cases same
    exact .inl ⟨⟨next, rest, rfl⟩, rfl⟩
  · rename_i other
    exact .inr ⟨fun next rest same => other next rest (by rw [same]), rfl⟩

/-- A url with only a path is read back up to its query. -/
theorem readAfterScheme_toText [Idna] (based : url.path = .segments path)
    (segments : ∀ segment ∈ path, IsSegment (isSpecial url.scheme) segment) (more : Bool) :
    readAfterScheme url.scheme (url.authorityText.toList ++ pathChars path) more =
      .ok { url with query := none, fragment := none } := by
  rw [known.scheme] at segments
  have read : readSegments false false (joinWith ['/'] (path.map String.toList)) = path :=
    readSegments_joinWith known.path segments
  have whole : { url with query := none, fragment := none } =
      (⟨url.scheme, "", none, false, none, none, .segments path, none, none⟩ : Url) := by
    rw [based, known.username, known.password, known.authority, known.host, known.port]
  obtain ⟨first, rest, same⟩ := List.exists_cons_of_ne_nil known.path
  have chars : pathChars path = '/' :: joinWith ['/'] (path.map String.toList) := by
    rw [same]
    exact pathChars_cons first rest
  rw [chars, whole]
  obtain ⟨-, text⟩ | ⟨other, text⟩ := known.authorityText_eq based
  · rw [text, show "/.".toList = ['/', '.'] from rfl, List.cons_append, readAfterScheme_slash known.scheme
      fun c head => by cases head; decide, List.singleton_append, readSegments_dot, read]
  · rw [text, show "".toList = [] from rfl, List.nil_append,
      readAfterScheme_slash known.scheme (head_joinWith segments other), read]

end HasPath

namespace IsPlaced
variable [Idna] (known : IsPlaced url path)
include known

theorem mem_toText (member : c ∈ url.authorityText.toList ++ pathChars path) : 0x20 < c.toNat ∧ c ∉ ['?', '#'] := by
  obtain front | inPath := List.mem_append.mp member
  · obtain file | authority | path := known.kind
    · rw [file.authorityText_toList] at front
      obtain rfl | rfl | inHost : c = '/' ∨ c = '/' ∨ c ∈ url.hostText.toList := by simpa using front
      · decide
      · decide
      · have ⟨blank, other⟩ := file.mem_hostText inHost
        exact ⟨blank, fun among => other (List.mem_append_right ['/', '\\'] (List.mem_append_left ['@'] among))⟩
    · rw [authorityText_toList authority.authority] at front
      obtain rfl | rfl | within : c = '/' ∨ c = '/' ∨ c ∈ url.authorityChars := by simpa using front
      · decide
      · decide
      · have ⟨blank, other⟩ := authority.mem_authorityChars within
        exact ⟨blank, fun among => other (List.mem_append_right ['/', '\\'] among)⟩
    · obtain ⟨-, text⟩ | ⟨-, text⟩ := path.authorityText_eq known.based
      · rw [text] at front
        exact (show ∀ c ∈ "/.".toList, 0x20 < c.toNat ∧ c ∉ ['?', '#'] by decide) c front
      · rw [text] at front
        cases front
  · exact mem_pathChars known.segments inPath

theorem readAfterScheme_toText (more : Bool) :
    readAfterScheme url.scheme (url.authorityText.toList ++ pathChars path) more =
      .ok { url with query := none, fragment := none } := by
  obtain file | authority | path := known.kind
  · exact file.readAfterScheme_toText known.based known.segments more
  · exact authority.readAfterScheme_toText known.based known.segments more
  · exact path.readAfterScheme_toText known.based known.segments more

end IsPlaced

theorem IsNormal.parse_toText [Idna] (known : IsNormal url path) : parse url.toText = .ok url := by
  have placed := known.toIsPlaced
  have whole := parse_of_parts known.scheme (toText_toList known.based) (fun c member => placed.mem_toText member)
    known.query known.fragment placed.readAfterScheme_toText
  exact whole

end Kinds

section Reading

theorem isPlaced_of_readFilePath [Idna] {host : Option Host} (text : List Char) (hosts : ∀ name ∈ host,
    Host.read name.toText = .ok name ∧ Host.Stands name.toText ∧ name ≠ .domain "localhost") :
    IsPlaced { scheme := "file", authority := true, host, path := .segments (readFilePath text) }
      (readFilePath text) where
  based := rfl
  segments := (readFilePath_spec text).2
  kind := .inl ⟨rfl, rfl, rfl, rfl, rfl, hosts, (readFilePath_spec text).1⟩

theorem isPlaced_of_readFile [Idna] (read : readFile text = .ok url) :
    url.scheme = "file" ∧ ∃ path, IsPlaced url path := by
  unfold readFile at read
  split at read
  · split at read
    · dsimp only at read
      split at read
      · cases read
        exact ⟨rfl, _, isPlaced_of_readFilePath _ nofun⟩
      · split at read
        · cases read
          exact ⟨rfl, _, isPlaced_of_readFilePath _ nofun⟩
        · obtain ⟨host, found, read⟩ := bind_eq_ok read
          cases read
          refine ⟨rfl, _, isPlaced_of_readFilePath _ ?_⟩
          split
          · nofun
          · rename_i other
            rintro _ ⟨⟩
            exact ⟨(Host.read_toText found).1, (Host.read_toText found).2, other⟩
    · cases read
      exact ⟨rfl, _, isPlaced_of_readFilePath _ nofun⟩
  · cases read
    exact ⟨rfl, _, isPlaced_of_readFilePath _ nofun⟩

theorem isPlaced_of_readWithAuthority [Idna] {more : Bool} (other : scheme ≠ "file")
    (read : readWithAuthority scheme text more = .ok url) : url.scheme = scheme ∧ ∃ path, IsPlaced url path := by
  obtain ⟨⟨place, rest⟩, found, read⟩ := bind_eq_ok read
  obtain ⟨rfl, known⟩ := isAuthority_of_readAuthority found
  cases read
  obtain ⟨some_, segments⟩ := readPath_spec (isSpecial place.scheme) false (rest ++
    text.dropWhile fun c => !endsAuthority (isSpecial place.scheme) c)
  exact ⟨rfl, _, rfl, segments, .inr (.inl ⟨⟨known.authority, known.username, known.password, known.port, known.host,
    known.missing⟩, other, some_⟩)⟩

private theorem isPlaced_of_readAfterScheme [Idna] {more : Bool} (read : readAfterScheme scheme text more = .ok url)
    (isBase : url.isBase = true) : url.scheme = scheme ∧ ∃ path, IsPlaced url path := by
  unfold readAfterScheme at read
  split at read
  · rename_i file
    rw [file]
    exact isPlaced_of_readFile read
  · rename_i other
    split at read
    · exact isPlaced_of_readWithAuthority other read
    · rename_i plain
      have plain : isSpecial scheme = false := by simpa using plain
      split at read
      · exact isPlaced_of_readWithAuthority other read
      · rename_i rest _
        cases read
        have ⟨some_, segments⟩ := readSegments_spec false false rest
        exact ⟨rfl, _, rfl, by rwa [plain], .inr (.inr ⟨plain, rfl, rfl, rfl, rfl, rfl, some_⟩)⟩
      · cases read
        cases isBase

private theorem IsPlaced.withParts [Idna] {query fragment : Option String} (known : IsPlaced url path) :
    IsPlaced { url with query, fragment } path where
  based := known.based
  segments := known.segments
  kind := by
    obtain file | authority | path := known.kind
    · exact .inl ⟨file.scheme, file.authority, file.username, file.password, file.port, file.host, file.path⟩
    · exact .inr (.inl ⟨⟨authority.authority, authority.username, authority.password, authority.port, authority.host,
        authority.missing⟩, authority.scheme, authority.path⟩)
    · exact .inr (.inr ⟨path.scheme, path.authority, path.username, path.password, path.host, path.port, path.path⟩)

private theorem isStable_querySet (scheme : String) : (querySet scheme).IsStable := by
  unfold querySet
  split <;> decide

theorem keeps_of_encoded {set : EncodeSet} {follows : Bool} (stable : set.IsStable) :
    ∀ part ∈ (if follows then some (String.ofList (percentEncode set text)) else none),
      ∀ c ∈ part.toList, set.Keeps c := by
  intro part found c member
  split at found
  · cases found
    rw [String.toList_ofList] at member
    exact keeps_of_mem_percentEncode stable member
  · cases found

/-- What a url is read as. -/
theorem isNormal_of_parse [Idna] {text : String} (read : parse text = .ok url) (isBase : url.isBase = true) :
    ∃ path, IsNormal url path := by
  unfold parse at read
  dsimp only at read
  split at read
  · cases read
  · rename_i scheme rest found
    obtain ⟨place, placed, read⟩ := bind_eq_ok read
    cases read
    obtain ⟨rfl, path, known⟩ := isPlaced_of_readAfterScheme placed isBase
    exact ⟨path, known.withParts, isScheme_of_readScheme found, keeps_of_encoded (isStable_querySet place.scheme),
      keeps_of_encoded (by decide)⟩

/-- Every url that a path can be put on is read back from its text. -/
theorem parse_toText [Idna] {text : String} (read : parse text = .ok url) (isBase : url.isBase = true) :
    parse url.toText = .ok url := by
  obtain ⟨path, known⟩ := isNormal_of_parse read isBase
  exact known.parse_toText

end Reading

end ProxyWatch.Url
