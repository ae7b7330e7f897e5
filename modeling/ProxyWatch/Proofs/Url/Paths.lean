import ProxyWatch.Proofs.Url.Segments
import ProxyWatch.Proofs.Url.Splitting

/-! Every path that is read is read back from its text. -/
namespace ProxyWatch.Url
variable {special isFile : Bool} {path front parts : List String} {segment : String} {text : List Char} {c : Char}

/-- A segment as it is read and written. -/
structure IsSegment (special : Bool) (segment : String) : Prop where
  kept : ∀ c ∈ segment.toList, EncodeSet.path.Keeps c ∧ isSlash special c = false
  single : isSingleDot segment = false
  double : isDoubleDot segment = false

theorem isSegment_empty (special : Bool) : IsSegment special "" where
  kept := nofun
  single := by decide +kernel
  double := by decide +kernel

theorem pushSegment_of_isSegment (known : IsSegment special segment) (path : List String) (isLast : Bool) :
    pushSegment isFile path segment isLast = path ++ [segment] := by
  rw [pushSegment, known.double, known.single]
  rfl

private theorem pushAll_of_isSegment (known : ∀ segment ∈ parts, IsSegment special segment) (path : List String) :
    pushAll isFile path parts = path ++ parts := by
  induction parts generalizing path with
  | nil => simp [pushAll]
  | cons segment rest ih =>
    have first := known segment List.mem_cons_self
    cases rest with
    | nil => exact pushSegment_of_isSegment first path true
    | cons next rest =>
      rw [pushAll, pushSegment_of_isSegment first, ih fun s later => known s (.tail _ later)]
      · simp
      · nofun

private theorem above_subset (isFile : Bool) (path : List String) : above isFile path ⊆ path := by
  unfold above
  split
  · exact List.Subset.refl path
  · exact List.dropLast_subset path

/-- The characters that parts of a path are read as. -/
def IsPart (special : Bool) (segment : String) : Prop :=
  ∀ c ∈ segment.toList, EncodeSet.path.Keeps c ∧ isSlash special c = false

theorem isSegment_of_pushSegment {isLast : Bool} (known : ∀ segment ∈ path, IsSegment special segment)
    (part : IsPart special segment) :
    ∀ segment' ∈ pushSegment isFile path segment isLast, IsSegment special segment' := by
  intro other member
  unfold pushSegment at member
  have added (member : other ∈ if isLast then [""] else []) : IsSegment special other := by
    split at member
    · rw [List.mem_singleton.mp member]
      exact isSegment_empty special
    · cases member
  split at member
  · obtain before | last := List.mem_append.mp member
    · exact known other (above_subset isFile path before)
    · exact added last
  · rename_i double
    split at member
    · obtain before | last := List.mem_append.mp member
      · exact known other before
      · exact added last
    · rename_i single
      obtain before | last := List.mem_append.mp member
      · exact known other before
      · obtain rfl := List.mem_singleton.mp last
        exact ⟨part, by simpa using single, by simpa using double⟩

private theorem isSegment_of_pushAll (known : ∀ segment ∈ path, IsSegment special segment)
    (all : ∀ segment ∈ parts, IsPart special segment) :
    ∀ segment ∈ pushAll isFile path parts, IsSegment special segment := by
  induction parts generalizing path with
  | nil => exact known
  | cons segment rest ih =>
    have first := all segment List.mem_cons_self
    cases rest with
    | nil => exact isSegment_of_pushSegment known first
    | cons next rest => exact ih (isSegment_of_pushSegment known first) fun s later => all s (.tail _ later)

theorem pushSegment_ne_nil (path : List String) (segment : String) : pushSegment isFile path segment true ≠ [] := by
  unfold pushSegment
  split
  · simp
  · split <;> simp

theorem pushAll_ne_nil (some : parts ≠ []) (path : List String) : pushAll isFile path parts ≠ [] := by
  induction parts generalizing path with
  | nil => exact absurd rfl some
  | cons segment rest ih =>
    cases rest with
    | nil => exact pushSegment_ne_nil path segment
    | cons next rest => exact ih nofun _

private theorem isPart_of_text (special : Bool) (text : List Char) :
    ∀ part ∈ (splitOn '/' (text.map fun c => if isSlash special c then '/' else c)).map
      (fun part => String.ofList (percentEncode .path part)), IsPart special part := by
  intro segment member c within
  obtain ⟨part, among, rfl⟩ := List.mem_map.mp member
  rw [String.toList_ofList] at within
  have stable : EncodeSet.path.IsStable := by decide
  refine ⟨keeps_of_mem_percentEncode stable within, ?_⟩
  obtain ⟨inPart, -⟩ | written := mem_percentEncode within
  · obtain ⟨source, other⟩ := mem_of_mem_splitOn among inPart
    obtain ⟨d, -, rfl⟩ := List.mem_map.mp source
    by_cases slash : isSlash special d = true
    · rw [if_pos slash] at other
      exact absurd rfl other
    · rw [if_neg slash]
      simpa using slash
  · cases special
    · exact (show ∀ c ∈ escapes, isSlash false c = false by decide) c written
    · exact (show ∀ c ∈ escapes, isSlash true c = false by decide) c written

/-- What is read as a path. -/
theorem readSegments_spec (special isFile : Bool) (text : List Char) :
    readSegments special isFile text ≠ [] ∧
      ∀ segment ∈ readSegments special isFile text, IsSegment special segment := by
  refine ⟨pushAll_ne_nil ?_ [], isSegment_of_pushAll nofun (isPart_of_text special text)⟩
  simpa using splitOn_ne_nil '/' (text.map fun c => if isSlash special c then '/' else c)

theorem readPath_spec (special isFile : Bool) (text : List Char) :
    (special = true → readPath special isFile text ≠ []) ∧
      ∀ segment ∈ readPath special isFile text, IsSegment special segment := by
  cases text with
  | nil =>
    cases special with
    | true => exact ⟨fun _ => nofun, fun segment member => List.mem_singleton.mp member ▸ isSegment_empty true⟩
    | false => exact ⟨nofun, nofun⟩
  | cons c rest =>
    have ⟨some_, known⟩ := readSegments_spec special isFile (if isSlash special c then rest else c :: rest)
    exact ⟨fun _ => some_, known⟩

/-- The text of a path, a slash before every segment. -/
def pathChars (path : List String) : List Char := path.flatMap fun segment => '/' :: segment.toList

theorem toText_segments (path : List String) : (Path.segments path).toText.toList = pathChars path := by
  rw [Path.toText, String.toList_join, List.flatMap_map, pathChars]
  congr 1
  funext segment
  simp

theorem pathChars_append (front path : List String) : pathChars (front ++ path) = pathChars front ++ pathChars path :=
  List.flatMap_append

theorem pathChars_cons (first : String) (rest : List String) :
    pathChars (first :: rest) = '/' :: joinWith ['/'] ((first :: rest).map String.toList) := by
  induction rest generalizing first with
  | nil => simp [pathChars, joinWith]
  | cons next rest ih =>
    have step : pathChars (first :: next :: rest) = '/' :: first.toList ++ pathChars (next :: rest) := rfl
    rw [step, ih next]
    simp [joinWith]

/-- Segments are read back from their text. -/
theorem readSegments_joinWith (some : path ≠ []) (known : ∀ segment ∈ path, IsSegment special segment) :
    readSegments special isFile (joinWith ['/'] (path.map String.toList)) = path := by
  have slash : isSlash special '/' = true := by cases special <;> rfl
  have same : (joinWith ['/'] (path.map String.toList)).map (fun c => if isSlash special c then '/' else c) =
      joinWith ['/'] (path.map String.toList) := by
    refine (List.map_congr_left fun c member => ?_).trans (List.map_id _)
    obtain rfl | ⟨part, among, within⟩ := mem_joinWith member
    · rw [if_pos slash]
      rfl
    · obtain ⟨segment, inPath, rfl⟩ := List.mem_map.mp among
      rw [((known segment inPath).kept c within).2]
      rfl
  have split : splitOn '/' (joinWith ['/'] (path.map String.toList)) = path.map String.toList := by
    refine splitOn_joinWith (by simpa using some) fun part member among => ?_
    obtain ⟨segment, within, rfl⟩ := List.mem_map.mp member
    exact absurd ((known segment within).kept _ among).2 (by rw [slash]; decide)
  have encoded : (path.map String.toList).map (fun part => String.ofList (percentEncode .path part)) = path := by
    rw [List.map_map]
    refine (List.map_congr_left fun segment member => ?_).trans (List.map_id _)
    rw [Function.comp_apply, percentEncode_of_keeps fun c within => ((known segment member).kept c within).1,
      String.ofList_toList, id]
  rw [readSegments, same, split, encoded, pushAll_of_isSegment known, List.nil_append]

/-- A path is read back from its text. -/
theorem readPath_pathChars (some : path ≠ []) (known : ∀ segment ∈ path, IsSegment special segment) :
    readPath special isFile (pathChars path) = path := by
  obtain ⟨first, rest, rfl⟩ := List.exists_cons_of_ne_nil some
  have slash : isSlash special '/' = true := by cases special <;> rfl
  rw [pathChars_cons, readPath, if_pos slash, readSegments_joinWith some known]

theorem mem_pathChars (known : ∀ segment ∈ path, IsSegment special segment) (member : c ∈ pathChars path) :
    0x20 < c.toNat ∧ c ∉ ['?', '#'] := by
  obtain ⟨segment, among, within⟩ := List.mem_flatMap.mp member
  obtain rfl | inner := List.mem_cons.mp within
  · decide
  · have kept := ((known segment among).kept c inner).1
    have marks : ∀ d ∈ ['?', '#'], d ∈ EncodeSet.path.members := by decide
    exact ⟨kept.blank_lt (by decide), fun listed => kept.2.2 (marks c listed)⟩

/-- A file path begins with a segment that has a text, unless it is the root, and a drive letter stands
before a colon. -/
def IsFilePath (path : List String) : Prop :=
  path = [""] ∨ ∃ first rest, path = first :: rest ∧ first ≠ "" ∧
    (isDriveLetter first = true → String.ofList (first.toList.take 1 ++ [':']) = first)

private theorem toList_of_isDriveLetter (drive : isDriveLetter segment = true) :
    ∃ letter mark, segment.toList = [letter, mark] ∧ letter.isAlpha = true := by
  unfold isDriveLetter at drive
  split at drive
  · rename_i letter mark text
    exact ⟨letter, mark, text, (Bool.and_eq_true_iff.mp drive).1⟩
  · cases drive

private theorem isSegment_of_drive {letter : Char} (kept : EncodeSet.path.Keeps letter)
    (slash : isSlash special letter = false) : IsSegment special (String.ofList [letter, ':']) where
  kept c member := by
    obtain rfl | rfl : c = letter ∨ c = ':' := by simpa using member
    · exact ⟨kept, slash⟩
    · cases special <;> decide
  single := by
    refine eq_false_of_ne_true fun dot => ?_
    simpa using isSingleDot_iff.mp dot
  double := by
    refine eq_false_of_ne_true fun dots => ?_
    have lowered := isDoubleDot_iff.mp dots
    simp at lowered

theorem readFilePath_spec (text : List Char) :
    IsFilePath (readFilePath text) ∧ ∀ segment ∈ readFilePath text, IsSegment true segment := by
  have known := (readPath_spec true true text).2
  have fewer : ∀ segment ∈ (readPath true true text).dropWhile (·.isEmpty), IsSegment true segment :=
    fun segment member => known segment ((List.dropWhile_suffix _).subset member)
  have head := List.head?_dropWhile_not (fun segment : String => segment.isEmpty) (readPath true true text)
  unfold readFilePath
  dsimp only
  generalize (readPath true true text).dropWhile (·.isEmpty) = segments at fewer head
  cases segments with
  | nil => exact ⟨.inl rfl, fun segment member => List.mem_singleton.mp member ▸ isSegment_empty true⟩
  | cons first rest =>
    have some_ : first ≠ "" := by simpa using head
    dsimp only
    split
    · rename_i drive
      obtain ⟨letter, mark, chars, alpha⟩ := toList_of_isDriveLetter drive
      have ⟨kept, slash⟩ := (fewer first List.mem_cons_self).kept letter (by simp [chars])
      rw [chars]
      refine ⟨.inr ⟨_, rest, rfl, ?_, fun _ => ?_⟩, fun segment member => ?_⟩
      · simp [← String.toList_inj]
      · simp
      · obtain rfl | later := List.mem_cons.mp member
        · exact isSegment_of_drive kept slash
        · exact fewer segment (.tail _ later)
    · rename_i other
      exact ⟨.inr ⟨first, rest, rfl, some_, fun drive => absurd drive other⟩, fewer⟩

/-- A file path is read back from its text. -/
theorem readFilePath_pathChars (file : IsFilePath path) (known : ∀ segment ∈ path, IsSegment true segment) :
    readFilePath (pathChars path) = path := by
  obtain rfl | ⟨first, rest, rfl, some_, drive⟩ := file
  · decide +kernel
  · have first_ : first.isEmpty = false := by simpa using some_
    rw [readFilePath, readPath_pathChars (List.cons_ne_nil first rest) known, List.dropWhile_cons, first_,
      if_neg Bool.false_ne_true]
    dsimp only
    split
    · rename_i letter
      rw [drive letter]
    · rfl

end ProxyWatch.Url
