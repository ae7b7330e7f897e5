import ProxyWatch.Api.Client
import ProxyWatch.Proofs.Url.Roundtrip

/-! What the text of a url is read as once more segments follow it. -/
namespace ProxyWatch.Url
open Api.Client (stripSlashes)

variable {path words : List String} {url : Url} {scheme word : String} {text : List Char} {c : Char} {special : Bool}

/-- A path without the empty segments at its end. -/
def trunk (path : List String) : List String := (path.reverse.dropWhile (·.isEmpty)).reverse

/-- A url with an authority but no host, other than that of a file. -/
def IsBare (url : Url) : Prop := url.authority = true ∧ url.host = none ∧ url.scheme ≠ "file"

instance (url : Url) : Decidable (IsBare url) := inferInstanceAs (Decidable (_ ∧ _ ∧ _))

/-- What the text of a url is read as once segments follow it. They belong to what it ends with; the slashes
of a bare url are taken for the path's. -/
def continued (url : Url) (path words : List String) : Url :=
  let onto (text : String) : Option String := some (String.ofList (stripSlashes text.toList ++ pathChars words))
  match url.fragment, url.query with
  | some fragment, _ => { url with fragment := onto fragment }
  | none, some query => { url with query := onto query }
  | none, none =>
    if IsBare url ∧ trunk path = [] then { scheme := url.scheme, path := .segments words }
    else { url with path := .segments (trunk path ++ words) }

section Trunks

private theorem trunk_append_empty (path : List String) : trunk (path ++ [""]) = trunk path := by
  simp [trunk]

private theorem trunk_append_of_ne (some : word ≠ "") (path : List String) :
    trunk (path ++ [word]) = path ++ [word] := by
  simp [trunk, some]

private theorem trunk_of_getLast? (other : path.getLast? ≠ some "") : trunk path = path := by
  cases last : path.getLast? with
  | none =>
    rw [List.getLast?_eq_none_iff.mp last]
    rfl
  | some segment =>
    obtain ⟨front, rfl⟩ := List.getLast?_eq_some_iff.mp last
    exact trunk_append_of_ne (fun empty => other (last.trans (congrArg some empty))) front

theorem exists_trunk (path : List String) : ∃ n, path = trunk path ++ List.replicate n "" := by
  have whole : path = trunk path ++ (path.reverse.takeWhile (·.isEmpty)).reverse := by
    rw [trunk, ← List.reverse_append, List.takeWhile_append_dropWhile, List.reverse_reverse]
  have empty : ∀ segment ∈ (path.reverse.takeWhile (·.isEmpty)).reverse, segment = "" := fun segment member => by
    simpa using List.all_eq_true.mp List.all_takeWhile segment (List.mem_reverse.mp member)
  exact ⟨_, whole.trans (congrArg (trunk path ++ ·) (List.eq_replicate_of_mem empty))⟩

theorem exists_trunk_cons (some : trunk path ≠ []) :
    ∃ first more n, trunk path = first :: more ∧ path = first :: (more ++ List.replicate n "") := by
  obtain ⟨first, more, same⟩ := List.exists_cons_of_ne_nil some
  obtain ⟨n, whole⟩ := exists_trunk path
  exact ⟨first, more, n, same, whole.trans (congrArg (· ++ List.replicate n "") same)⟩

theorem mem_of_mem_trunk (member : word ∈ trunk path) : word ∈ path := by
  have within := (List.dropWhile_suffix _).subset (List.mem_reverse.mp member)
  exact List.mem_reverse.mp within

theorem getLast?_trunk (path : List String) : (trunk path).getLast? ≠ some "" := by
  intro last
  have stopped := List.head?_dropWhile_not (fun segment : String => segment.isEmpty) path.reverse
  rw [trunk, List.getLast?_reverse] at last
  rw [last] at stopped
  exact absurd stopped (by simp)

private theorem trunk_stem (path : List String) : trunk (stem path) = trunk path := by
  obtain same | same | ⟨same, root⟩ := stem_cases path
  · exact congrArg trunk same.symm
  · exact ((congrArg trunk same).trans (trunk_append_empty _)).symm
  · rw [root, same]
    rfl

theorem trunk_eq_stem_iff : trunk path = stem path ↔ (stem path).getLast? ≠ some "" := by
  constructor
  · intro same
    rw [← same]
    exact getLast?_trunk path
  · intro other
    rw [← trunk_stem, trunk_of_getLast? other]

end Trunks

section Words

theorem dotless_of_isWord (known : IsWord word) (same : word.toList = text) : '.' ∉ text := fun member =>
  absurd (known.2 '.' (same ▸ member)) (by decide)

theorem ofList_percentEncode_of_isWord (known : IsWord word) :
    String.ofList (percentEncode .pathSegment word.toList) = word := by
  have marks : ∀ d ∈ EncodeSet.pathSegment.members, d.isAlphanum = false := by decide
  rw [percentEncode_of_keeps fun c member => keeps_of_isAlphanum marks (known.2 c member), String.ofList_toList]

theorem not_isSlash_of_isAlphanum (alphanum : c.isAlphanum = true) : isSlash special c = false :=
  not_isSlash_of_not_mem fun slash => by
    simp [(show ∀ d ∈ ['/', '\\'], d.isAlphanum = false by decide) c slash] at alphanum

theorem isSegment_of_isWord (known : IsWord word) : IsSegment special word where
  kept c member := by
    have marks : ∀ d ∈ EncodeSet.path.members, d.isAlphanum = false := by decide
    have alphanum := known.2 c member
    exact ⟨keeps_of_isAlphanum marks alphanum, not_isSlash_of_isAlphanum alphanum⟩
  single := eq_false_of_ne_true fun dot => by
    rw [← ofList_percentEncode_of_isWord known] at dot
    exact dotless_of_isWord known (isSingleDot_percentEncode (by decide) dot) (by decide)
  double := eq_false_of_ne_true fun dots => by
    rw [← ofList_percentEncode_of_isWord known] at dots
    exact dotless_of_isWord known (isDoubleDot_percentEncode (by decide) dots) (by decide)

theorem isSegment_of_words (all : ∀ word ∈ words, IsWord word) : ∀ word ∈ words, IsSegment special word :=
  fun word member => isSegment_of_isWord (all word member)

private theorem keeps_of_mem_words {set : EncodeSet} (slash : set.Keeps '/')
    (marks : ∀ d ∈ set.members, d.isAlphanum = false) (all : ∀ word ∈ words, IsWord word)
    (member : c ∈ pathChars words) : set.Keeps c := by
  obtain ⟨word, among, within⟩ := List.mem_flatMap.mp member
  obtain rfl | inner := List.mem_cons.mp within
  · exact slash
  · exact keeps_of_isAlphanum marks ((all word among).2 c inner)

end Words

section Stripping

theorem mem_stripSlashes (member : c ∈ stripSlashes text) : c ∈ text := by
  have within := (List.dropWhile_suffix _).subset (List.mem_reverse.mp member)
  exact List.mem_reverse.mp within

theorem stripSlashes_append (other : c ≠ '/') (front rest : List Char) :
    stripSlashes (front ++ c :: rest) = front ++ c :: stripSlashes rest := by
  have kept : (c == '/') = false := by simpa using other
  have reversed : (front ++ c :: rest).reverse = rest.reverse ++ c :: front.reverse := by simp
  rw [stripSlashes, stripSlashes, reversed, List.dropWhile_append]
  split
  · rename_i empty
    simp [List.isEmpty_iff.mp empty, kept]
  · simp

private theorem stripSlashes_append_slashes (text : List Char) (n : Nat) :
    stripSlashes (text ++ List.replicate n '/') = stripSlashes text := by
  rw [stripSlashes, List.reverse_append, List.reverse_replicate, List.dropWhile_append_of_pos, stripSlashes]
  intro c member
  simp [List.eq_of_mem_replicate member]

theorem stripSlashes_append_unslashed (some : text ≠ []) (unslashed : ∀ c ∈ text, c ≠ '/') (front : List Char) :
    stripSlashes (front ++ text) = front ++ text := by
  have whole : text = text.dropLast ++ [text.getLast some] := (List.dropLast_concat_getLast some).symm
  rw [whole, ← List.append_assoc, stripSlashes_append (unslashed _ (List.getLast_mem some))]
  rfl

private theorem pathChars_replicate (n : Nat) : pathChars (List.replicate n "") = List.replicate n '/' := by
  induction n with
  | zero => rfl
  | succ n ih => rw [List.replicate_succ, List.replicate_succ, ← ih]; rfl

/-- The slashes of a path go as its empty segments do. -/
theorem stripSlashes_pathChars (known : ∀ segment ∈ path, IsSegment special segment) (front : List Char) :
    stripSlashes (front ++ pathChars path) =
      if trunk path = [] then stripSlashes front else front ++ pathChars (trunk path) := by
  obtain ⟨n, whole⟩ := exists_trunk path
  have stripped : stripSlashes (front ++ pathChars path) = stripSlashes (front ++ pathChars (trunk path)) := by
    rw [congrArg pathChars whole, pathChars_append, pathChars_replicate, ← List.append_assoc,
      stripSlashes_append_slashes]
  rw [stripped]
  split
  · rename_i root
    simp [root, pathChars]
  · rename_i some_
    -- The last segment of a trunk has a last character.
    have other := getLast?_trunk path
    obtain ⟨before, last, same⟩ : ∃ before last, trunk path = before ++ [last] :=
      ⟨_, _, (List.dropLast_concat_getLast some_).symm⟩
    have member : last ∈ path := by
      rw [whole, same]
      simp
    have chars : last.toList ≠ [] := fun empty => other (by simp [same, String.toList_eq_nil_iff.mp empty])
    have unslashed : ∀ c ∈ last.toList, c ≠ '/' := by
      rintro c within rfl
      have kept := ((known last member).kept _ within).2
      cases special <;> exact absurd kept (by decide)
    have ended : front ++ pathChars (trunk path) = (front ++ pathChars before ++ ['/']) ++ last.toList := by
      rw [same, pathChars_append]
      simp [pathChars]
    rw [ended, stripSlashes_append_unslashed chars unslashed]

end Stripping

section Continuing

theorem authorityText_withPath (authority : url.authority = true) (path : Url.Path) :
    ({ url with path } : Url).authorityText = url.authorityText := by
  unfold authorityText
  rw [if_pos authority, if_pos authority]
  rfl

private theorem not_isDriveLetter_of_isWord (known : IsWord word) : isDriveLetter word = false := by
  refine eq_false_of_ne_true fun drive => ?_
  unfold isDriveLetter at drive
  split at drive
  · rename_i letter mark same
    obtain ⟨-, sign⟩ : letter.isAlpha = true ∧ (mark = ':' ∨ mark = '|') := by simpa using drive
    have alphanum := known.2 mark (by simp [same])
    obtain rfl | rfl := sign
    · exact absurd alphanum (by decide)
    · exact absurd alphanum (by decide)
  · cases drive

variable (some_ : words ≠ [])
include some_

theorem pathChars_words : pathChars words = '/' :: joinWith ['/'] (words.map String.toList) := by
  obtain ⟨first, rest, rfl⟩ := List.exists_cons_of_ne_nil some_
  exact pathChars_cons first rest

/-- A path without an authority keeps the dot before it. -/
theorem HasPath.authorityText_onward (known : HasPath url path) (based : url.path = .segments path)
    (trunk_ : trunk path ≠ []) :
    ({ url with path := .segments (trunk path ++ words) } : Url).authorityText = url.authorityText := by
  have onward : HasPath { url with path := .segments (trunk path ++ words) } (trunk path ++ words) :=
    ⟨known.scheme, known.authority, known.username, known.password, known.host, known.port, by simp [trunk_]⟩
  obtain ⟨first, more, n, same, whole⟩ := exists_trunk_cons trunk_
  have last := getLast?_trunk path
  rw [same] at last
  -- Behind an empty segment there are more, in the trunk as in the path.
  obtain ⟨⟨next, rest, rooted⟩, text⟩ | ⟨other, text⟩ := known.authorityText_eq based
  · obtain ⟨-, text'⟩ | ⟨other, -⟩ := onward.authorityText_eq rfl
    · rw [text, text']
    · obtain rfl : first = "" := (List.cons.inj (whole.symm.trans rooted)).1
      obtain ⟨second, others, tail⟩ := List.exists_cons_of_ne_nil (show more ++ words ≠ [] by simp [some_])
      exact absurd (by rw [same, List.cons_append, tail]) (other second others)
  · obtain ⟨⟨next, rest, rooted⟩, -⟩ | ⟨-, text'⟩ := onward.authorityText_eq rfl
    · rw [same, List.cons_append] at rooted
      obtain rfl : first = "" := (List.cons.inj rooted).1
      cases more with
      | nil => exact absurd rfl last
      | cons second others => exact absurd whole (other second _)
    · rw [text, text']

variable (all : ∀ word ∈ words, IsWord word)
include all

theorem isFilePath_of_words : IsFilePath words := by
  obtain ⟨first, rest, rfl⟩ := List.exists_cons_of_ne_nil some_
  have isWord := all first List.mem_cons_self
  exact .inr ⟨first, rest, rfl, isWord.1, fun drive => by simp [not_isDriveLetter_of_isWord isWord] at drive⟩

private theorem isFilePath_append_words (file : IsFilePath path) : IsFilePath (trunk path ++ words) := by
  by_cases root : trunk path = []
  · rw [root]
    exact isFilePath_of_words some_ all
  · obtain ⟨first, more, n, same, whole⟩ := exists_trunk_cons root
    obtain rfl | ⟨other, rest, path_, segment, drive⟩ := file
    · exact absurd rfl root
    · obtain rfl : first = other := (List.cons.inj (whole.symm.trans path_)).1
      exact .inr ⟨first, more ++ words, by rw [same]; rfl, segment, drive⟩

theorem IsPlaced.onward [Idna] (known : IsPlaced url path) :
    IsPlaced { url with path := .segments (trunk path ++ words) } (trunk path ++ words) where
  based := rfl
  segments segment member := by
    obtain inTrunk | word := List.mem_append.mp member
    · exact known.segments segment (mem_of_mem_trunk inTrunk)
    · exact isSegment_of_isWord (all segment word)
  kind := by
    have other : trunk path ++ words ≠ [] := by simp [some_]
    obtain file | authority | path := known.kind
    · exact .inl ⟨file.scheme, file.authority, file.username, file.password, file.port, file.host,
        isFilePath_append_words some_ all file.path⟩
    · exact .inr (.inl ⟨⟨authority.authority, authority.username, authority.password, authority.port, authority.host,
        authority.missing⟩, authority.scheme, fun _ => other⟩)
    · exact .inr (.inr ⟨path.scheme, path.authority, path.username, path.password, path.host, path.port, other⟩)

/-- What goes on behind the same text is read as it is placed. -/
theorem IsPlaced.readAfterScheme_onward [Idna] (known : IsPlaced url path) (more : Bool)
    (front : ({ url with path := .segments (trunk path ++ words) } : Url).authorityText = url.authorityText) :
    readAfterScheme url.scheme (url.authorityText.toList ++ pathChars (trunk path) ++ pathChars words) more =
      .ok { url with path := .segments (trunk path ++ words), query := none, fragment := none } := by
  have read := (known.onward some_ all).readAfterScheme_toText more
  rw [front, pathChars_append, ← List.append_assoc] at read
  exact read

theorem exists_pathChars_words :
    ∃ letter rest, pathChars words = '/' :: letter :: rest ∧ letter.isAlphanum = true := by
  obtain ⟨first, others, rfl⟩ := List.exists_cons_of_ne_nil some_
  have ⟨segment, alphanum⟩ := all first List.mem_cons_self
  obtain ⟨letter, rest, chars⟩ := List.exists_cons_of_ne_nil (mt String.toList_eq_nil_iff.mp segment)
  refine ⟨letter, rest ++ pathChars others, ?_, alphanum letter (by simp [chars])⟩
  simp [pathChars, chars]

theorem head_words : ∀ c ∈ (joinWith ['/'] (words.map String.toList)).head?, c ≠ '/' := by
  obtain ⟨letter, rest, chars, alphanum⟩ := exists_pathChars_words some_ all
  rw [pathChars_words some_] at chars
  rw [(List.cons.inj chars).2]
  rintro c ⟨⟩ rfl
  exact absurd alphanum (by decide)

theorem readAfterScheme_words [Idna] (plain : isSpecial scheme = false) (more : Bool) :
    readAfterScheme scheme (pathChars words) more = .ok { scheme, path := .segments words } := by
  rw [pathChars_words some_, readAfterScheme_slash plain (head_words some_ all),
    readSegments_joinWith some_ (isSegment_of_words all)]

private theorem readAfterScheme_dot_words [Idna] (plain : isSpecial scheme = false) (more : Bool) :
    readAfterScheme scheme ('/' :: '.' :: pathChars words) more = .ok { scheme, path := .segments words } := by
  rw [pathChars_words some_, readAfterScheme_slash plain (fun c head => by cases head; decide), readSegments_dot,
    readSegments_joinWith some_ (isSegment_of_words all)]

private theorem readFile_words [Idna] : readFile (pathChars words) =
    .ok { scheme := "file", authority := true, path := .segments words } := by
  have read := readFilePath_pathChars (isFilePath_of_words some_ all) (isSegment_of_words all)
  obtain ⟨letter, rest, chars, alphanum⟩ := exists_pathChars_words some_ all
  have other : isSlash true letter = false := not_isSlash_of_isAlphanum alphanum
  rw [chars] at read ⊢
  simp [readFile, other, read]

private theorem IsPlaced.readAfterScheme_continued [Idna] (known : IsPlaced url path) (asked : url.query = none)
    (named : url.fragment = none) (more : Bool) :
    readAfterScheme url.scheme (stripSlashes (url.authorityText.toList ++ pathChars path) ++ pathChars words) more =
      .ok (continued url path words) := by
  have whole : continued url path words =
      if IsBare url ∧ trunk path = [] then { scheme := url.scheme, path := .segments words }
      else { url with path := .segments (trunk path ++ words), query := none, fragment := none } := by
    simp only [continued, asked, named]
  have onward := known.readAfterScheme_onward some_ all more
  rw [stripSlashes_pathChars known.segments, whole]
  -- Where the path has slashes only they all go, and without a host the two before it as well.
  by_cases root : trunk path = []
  · rw [if_pos root]
    rw [root, show pathChars [] = [] from rfl, List.append_nil] at onward
    rw [root]
    obtain file | authority | path_ := known.kind
    · rw [if_neg fun bare => bare.1.2.2 file.scheme]
      by_cases missing : url.host = none
      · have text : url.authorityText.toList = ['/', '/'] := by
          rw [file.authorityText_toList, hostText_of_missing missing]
        rw [text, file.scheme, file.username, file.password, file.authority, missing, file.port]
        exact readFile_words some_ all
      · have same : stripSlashes url.authorityText.toList = url.authorityText.toList := by
          rw [file.authorityText_toList]
          refine stripSlashes_append_unslashed (mt file.hostText_eq_nil_iff.mp missing) ?_ ['/', '/']
          rintro c member rfl
          exact (file.mem_hostText member).2 (by decide)
        rw [same]
        exact onward (authorityText_withPath file.authority _)
    · by_cases missing : url.host = none
      · have text : url.authorityText.toList = ['/', '/'] := by
          rw [authorityText_toList authority.authority, authority.authorityChars_eq_nil_iff.mpr missing]
        rw [if_pos ⟨⟨authority.authority, missing, authority.scheme⟩, rfl⟩, text]
        exact readAfterScheme_words some_ all (authority.missing missing).1 more
      · have same : stripSlashes url.authorityText.toList = url.authorityText.toList := by
          rw [authorityText_toList authority.authority]
          refine stripSlashes_append_unslashed (mt authority.authorityChars_eq_nil_iff.mp missing) ?_ ['/', '/']
          rintro c member rfl
          exact (authority.mem_authorityChars member).2 (by decide)
        rw [if_neg fun bare => missing bare.1.2.1, same]
        exact onward (authorityText_withPath authority.authority _)
    · rw [if_neg fun bare => absurd (bare.1.1.symm.trans path_.authority) (by decide), path_.username, path_.password,
        path_.authority, path_.host, path_.port]
      obtain ⟨-, text⟩ | ⟨-, text⟩ := path_.authorityText_eq known.based
      · rw [text]
        exact readAfterScheme_dot_words some_ all path_.scheme more
      · rw [text]
        exact readAfterScheme_words some_ all path_.scheme more
  · rw [if_neg root, if_neg fun bare => root bare.2]
    refine onward ?_
    obtain file | authority | path_ := known.kind
    · exact authorityText_withPath file.authority _
    · exact authorityText_withPath authority.authority _
    · exact path_.authorityText_onward some_ known.based root

omit some_ all in
private theorem keeps_slash_querySet (scheme : String) :
    (querySet scheme).Keeps '/' ∧ ∀ d ∈ (querySet scheme).members, d.isAlphanum = false := by
  unfold querySet
  split <;> decide

omit some_ in
/-- What goes on in a query or a fragment stands for itself as what it follows does. -/
theorem keeps_of_mem_onto {set : EncodeSet} {part : String} (slash : set.Keeps '/')
    (marks : ∀ d ∈ set.members, d.isAlphanum = false) (kept : ∀ c ∈ part.toList, set.Keeps c) :
    ∀ c ∈ (String.ofList (stripSlashes part.toList ++ pathChars words)).toList, set.Keeps c := by
  intro c member
  rw [String.toList_ofList] at member
  obtain before | behind := List.mem_append.mp member
  · exact kept c (mem_stripSlashes before)
  · exact keeps_of_mem_words slash marks all behind

omit some_ all in
/-- What goes on behind a marked part goes on in it. -/
theorem stripSlashes_append_marked {mark : Char} (other : mark ≠ '/') (front : List Char) (part : String) :
    stripSlashes (front ++ marked mark (some part)) ++ pathChars words =
      front ++ marked mark (some (String.ofList (stripSlashes part.toList ++ pathChars words))) := by
  simp [marked, stripSlashes_append other]

/-- The text of a url, without the slashes at its end, and words behind it. -/
theorem IsNormal.parse_continued [Idna] (known : IsNormal url path) :
    parse (String.ofList (stripSlashes url.toText.toList ++ pathChars words)) = .ok (continued url path words) := by
  have placed := known.toIsPlaced
  have body (c : Char) (member : c ∈ url.authorityText.toList ++ pathChars path) := placed.mem_toText member
  have written := toText_toList known.based
  -- The words belong to the last part of the text.
  cases named : url.fragment with
  | some fragment =>
    have kept : IsFragment (some (String.ofList (stripSlashes fragment.toList ++ pathChars words))) := by
      rintro _ ⟨⟩
      exact keeps_of_mem_onto all (by decide) (by decide) (known.fragment fragment named)
    rw [named, ← List.cons_append, ← List.append_assoc] at written
    rw [written, stripSlashes_append_marked (by decide), List.append_assoc, List.cons_append]
    have whole := parse_of_parts known.scheme String.toList_ofList body known.query kept placed.readAfterScheme_toText
    rw [whole]
    simp only [continued, named]
  | none =>
    rw [named, marked_none, List.append_nil] at written
    cases asked : url.query with
    | some query =>
      have kept : IsQuery url.scheme (some (String.ofList (stripSlashes query.toList ++ pathChars words))) := by
        have ⟨slash, marks⟩ := keeps_slash_querySet url.scheme
        rintro _ ⟨⟩
        exact keeps_of_mem_onto all slash marks (known.query query asked)
      rw [asked, ← List.cons_append, ← List.append_assoc] at written
      rw [written, stripSlashes_append_marked (by decide), List.append_assoc, List.cons_append]
      have whole := parse_of_parts known.scheme (by rw [String.toList_ofList, marked_none, List.append_nil]) body kept
        isFragment_none placed.readAfterScheme_toText
      rw [whole]
      simp only [continued, named, asked]
    | none =>
      have plain : ∀ c ∈ stripSlashes (url.authorityText.toList ++ pathChars path) ++ pathChars words,
          0x20 < c.toNat ∧ c ∉ ['?', '#'] := by
        intro c member
        obtain before | behind := List.mem_append.mp member
        · exact body c (mem_stripSlashes before)
        · have segments : ∀ word ∈ words, IsSegment false word := isSegment_of_words all
          exact mem_pathChars segments behind
      rw [asked, marked_none, List.append_nil] at written
      rw [written, stripSlashes_append (by decide), List.append_assoc, List.cons_append]
      have text (body : List Char) : (String.ofList (url.scheme.toList ++ ':' :: body)).toList =
          url.scheme.toList ++ ':' :: (body ++ marked '?' none ++ marked '#' none) := by
        rw [String.toList_ofList, marked_none, marked_none, List.append_nil, List.append_nil]
      have whole := parse_of_parts known.scheme (text _) plain (isQuery_none url.scheme) isFragment_none
        (placed.readAfterScheme_continued some_ all asked named)
      rw [whole]
      simp only [continued, named, asked]
      split
      · rfl
      · rfl

end Continuing

end ProxyWatch.Url
