import ProxyWatch.Proofs.Json.Numerals

/-! A value is read from every text that is written for it, however the text is laid out.

The compact text and the indented one differ in the blanks between their tokens alone: both are
instances of one writer. All that is read is the value's own but for its numbers, which are those that
their texts stand for; whole numbers stand for themselves. -/
namespace ProxyWatch.Json

namespace Source

mutual

/-- The tree that is read from the text of a value. -/
def ofWritten : Json → Source
  | .null => .null
  | .bool b => .bool b
  | .number n => .number n.reread
  | .string s => .string (some s)
  | .array items => .array (ofWrittenItems items)
  | .object members => .object (ofWrittenMembers members)

def ofWrittenItems : List Json → List Source
  | [] => []
  | item :: rest => ofWritten item :: ofWrittenItems rest

def ofWrittenMembers : List (String × Json) → List (Option String × Source)
  | [] => []
  | (name, value) :: rest => (some name, ofWritten value) :: ofWrittenMembers rest

end

end Source

open Source (isBlank skipBlank readValue readItems readMembers ofJson ofItems ofMembers ofWritten
  ofWrittenItems ofWrittenMembers)
open Literal (Stops)

/-- Values whose numbers are whole, with arrays and objects that nest at most `limit` deep. -/
inductive IsPlain : Nat → Json → Prop where
  | null {limit : Nat} : IsPlain limit .null
  | bool {limit : Nat} (value : Bool) : IsPlain limit (.bool value)
  | number {limit : Nat} {value : Number} (whole : value.IsWhole) : IsPlain limit (.number value)
  | string {limit : Nat} (value : String) : IsPlain limit (.string value)
  | array {limit : Nat} {items : List Json} (all : ∀ item ∈ items, IsPlain limit item) :
      IsPlain (limit + 1) (.array items)
  | object {limit : Nat} {members : Members} (all : ∀ pair ∈ members, IsPlain limit pair.2) :
      IsPlain (limit + 1) (.object members)

attribute [simp] IsPlain.null IsPlain.bool IsPlain.string

theorem isPlain_ofInt {limit : Nat} {n : Int} (least : -wholeLimit ≤ n) (most : n ≤ counterLimit) :
    (ofInt n).IsPlain limit :=
  .number (.integer least most)

theorem isPlain_ofNat {limit n : Nat} (most : n ≤ counterLimit) : (ofNat n).IsPlain limit := by
  have below : -wholeLimit ≤ 0 := by decide
  exact isPlain_ofInt (by omega) (Int.ofNat_le.mpr most)

@[simp] theorem isPlain_array {limit : Nat} {items : List Json} :
    IsPlain (limit + 1) (.array items) ↔ ∀ item ∈ items, IsPlain limit item :=
  ⟨fun | .array all => all, .array⟩

@[simp] theorem isPlain_object {limit : Nat} {members : Members} :
    IsPlain (limit + 1) (.object members) ↔ ∀ pair ∈ members, IsPlain limit pair.2 :=
  ⟨fun | .object all => all, .object⟩

mutual

theorem ofWritten_of_isPlain {limit : Nat} : ∀ {value : Json}, IsPlain limit value →
    ofWritten value = ofJson value
  | .null, _ | .bool _, _ | .string _, _ => rfl
  | .number _, .number whole => congrArg Source.number (Number.reread_of_isWhole whole)
  | .array _, .array all => congrArg Source.array (ofWrittenItems_of_isPlain all)
  | .object _, .object all => congrArg Source.object (ofWrittenMembers_of_isPlain all)

theorem ofWrittenItems_of_isPlain {limit : Nat} : ∀ {items : List Json},
    (∀ item ∈ items, IsPlain limit item) → ofWrittenItems items = ofItems items
  | [], _ => rfl
  | item :: rest, all => by
    have first := ofWritten_of_isPlain (all item List.mem_cons_self)
    have others := ofWrittenItems_of_isPlain fun other member => all other (List.mem_cons_of_mem item member)
    rw [ofWrittenItems, ofItems, first, others]

theorem ofWrittenMembers_of_isPlain {limit : Nat} : ∀ {members : List (String × Json)},
    (∀ pair ∈ members, IsPlain limit pair.2) → ofWrittenMembers members = ofMembers members
  | [], _ => rfl
  | (name, value) :: rest, all => by
    have first := ofWritten_of_isPlain (all (name, value) List.mem_cons_self)
    have others := ofWrittenMembers_of_isPlain fun other member =>
      all other (List.mem_cons_of_mem (name, value) member)
    rw [ofWrittenMembers, ofMembers, first, others]

end

/-- The blanks before an item at a depth, and those between the name of a member and its value. -/
structure Layout where
  line : Nat → List Char
  gap : List Char
  line_blank : ∀ depth, ∀ c ∈ line depth, isBlank c = true
  gap_blank : ∀ c ∈ gap, isBlank c = true

namespace Layout

def compact : Layout where
  line _ := []
  gap := []
  line_blank _ _ member := nomatch member
  gap_blank _ member := nomatch member

def indented : Layout where
  line := newline
  gap := [' ']
  line_blank depth c member := by
    rcases List.mem_cons.mp member with rfl | spaces
    · rfl
    · rw [List.eq_of_mem_replicate spaces]
      rfl
  gap_blank c member := by
    rw [List.mem_singleton.mp member]
    rfl

mutual

def write (layout : Layout) (depth : Nat) : Json → List Char
  | .array (item :: rest) =>
    '[' :: (layout.line (depth + 1) ++ (write layout (depth + 1) item ++ writeItems layout depth rest))
  | .object ((name, value) :: rest) =>
    '\x7b' :: (layout.line (depth + 1) ++ (renderString name ++ ':' ::
      (layout.gap ++ (write layout (depth + 1) value ++ writeMembers layout depth rest))))
  | value => value.render

/-- What follows the first item of an array. -/
def writeItems (layout : Layout) (depth : Nat) : List Json → List Char
  | [] => layout.line depth ++ [']']
  | item :: rest =>
    ',' :: (layout.line (depth + 1) ++
      (write layout (depth + 1) item ++ writeItems layout depth rest))

/-- What follows the first member of an object. -/
def writeMembers (layout : Layout) (depth : Nat) : List (String × Json) → List Char
  | [] => layout.line depth ++ ['\x7d']
  | (name, value) :: rest =>
    ',' :: (layout.line (depth + 1) ++ (renderString name ++ ':' ::
      (layout.gap ++ (write layout (depth + 1) value ++ writeMembers layout depth rest))))

end

mutual

theorem render_eq_write (depth : Nat) : ∀ value : Json, value.render = compact.write depth value
  | .null | .number _ | .string _ | .array [] | .object [] => rfl
  | .bool true | .bool false => rfl
  | .array (item :: rest) => by
    rw [render, write, render_eq_write (depth + 1) item, renderItems_eq_writeItems depth rest]
    rfl
  | .object ((name, value) :: rest) => by
    rw [render, write, render_eq_write (depth + 1) value, renderMembers_eq_writeMembers depth rest]
    rfl

theorem renderItems_eq_writeItems (depth : Nat) :
    ∀ items : List Json, renderItems items = compact.writeItems depth items
  | [] => rfl
  | item :: rest => by
    rw [renderItems, writeItems, render_eq_write (depth + 1) item,
      renderItems_eq_writeItems depth rest]
    rfl

theorem renderMembers_eq_writeMembers (depth : Nat) :
    ∀ members : List (String × Json), renderMembers members = compact.writeMembers depth members
  | [] => rfl
  | (name, value) :: rest => by
    rw [renderMembers, writeMembers, render_eq_write (depth + 1) value,
      renderMembers_eq_writeMembers depth rest]
    rfl

end

mutual

theorem renderIndented_eq_write (depth : Nat) :
    ∀ value : Json, value.renderIndented depth = indented.write depth value
  | .null | .number _ | .string _ | .array [] | .object [] => rfl
  | .bool true | .bool false => rfl
  | .array (item :: rest) => by
    rw [renderIndented, write, renderIndented_eq_write (depth + 1) item,
      indentedItems_eq_writeItems depth rest, List.append_assoc]
    rfl
  | .object ((name, value) :: rest) => by
    rw [renderIndented, write, renderIndented_eq_write (depth + 1) value,
      indentedMembers_eq_writeMembers depth rest, List.append_assoc]
    rfl

theorem indentedItems_eq_writeItems (depth : Nat) :
    ∀ items : List Json, indentedItems depth items = indented.writeItems depth items
  | [] => rfl
  | item :: rest => by
    rw [indentedItems, writeItems, renderIndented_eq_write (depth + 1) item,
      indentedItems_eq_writeItems depth rest, List.append_assoc]
    rfl

theorem indentedMembers_eq_writeMembers (depth : Nat) :
    ∀ members : List (String × Json), indentedMembers depth members = indented.writeMembers depth members
  | [] => rfl
  | (name, value) :: rest => by
    rw [indentedMembers, writeMembers, renderIndented_eq_write (depth + 1) value,
      indentedMembers_eq_writeMembers depth rest, List.append_assoc]
    rfl

end

end Layout

namespace Source

theorem skipBlank_append {blanks : List Char} (all : ∀ c ∈ blanks, isBlank c = true)
    (text : List Char) : skipBlank (blanks ++ text) = skipBlank text :=
  List.dropWhile_append_of_pos all

theorem skipBlank_of_not {c : Char} (ink : isBlank c = false) (text : List Char) :
    skipBlank (c :: text) = c :: text := by
  simp [skipBlank, ink]

theorem readValue_append {blanks : List Char} (all : ∀ c ∈ blanks, isBlank c = true) (fuel : Nat)
    (text : List Char) : readValue fuel (blanks ++ text) = readValue fuel text := by
  cases fuel with
  | zero => rw [readValue, readValue]
  | succ fuel => rw [readValue, readValue, skipBlank_append all]

theorem readMembers_append {blanks : List Char} (all : ∀ c ∈ blanks, isBlank c = true) (fuel : Nat)
    (text : List Char) : readMembers fuel (blanks ++ text) = readMembers fuel text := by
  cases fuel with
  | zero => rw [readMembers, readMembers]
  | succ fuel => rw [readMembers, readMembers, skipBlank_append all]

theorem readItems_append {blanks : List Char} (all : ∀ c ∈ blanks, isBlank c = true) (fuel : Nat)
    (text : List Char) : readItems fuel (blanks ++ text) = readItems fuel text := by
  cases fuel with
  | zero => rw [readItems, readItems]
  | succ fuel => rw [readItems, readItems, readValue_append all]

theorem ne_of_startsNumber {c other : Char} (digit : startsNumber c = true)
    (letter : startsNumber other = false) : c ≠ other := by
  rintro rfl
  cases digit.symm.trans letter

theorem isBlank_of_startsNumber {c : Char} (digit : startsNumber c = true) : isBlank c = false := by
  simp [isBlank, ne_of_startsNumber digit (by decide : startsNumber ' ' = false),
    ne_of_startsNumber digit (by decide : startsNumber '\n' = false),
    ne_of_startsNumber digit (by decide : startsNumber '\t' = false),
    ne_of_startsNumber digit (by decide : startsNumber '\r' = false)]

private theorem readValue_number {c : Char} {text rest : List Char} {literal : Literal} (fuel : Nat)
    (digit : startsNumber c = true) (read : Literal.read (c :: text) = some (literal, rest)) :
    readValue (fuel + 1) (c :: text) = some (.number literal.value?, rest) := by
  rw [readValue, skipBlank_of_not (isBlank_of_startsNumber digit)]
  split
  case h_7 first after _ _ _ _ _ _ same =>
    cases same
    simp [digit, read]
  all_goals
    rename_i same
    cases same
  all_goals exact absurd digit (by decide)

private theorem readValue_string (fuel : Nat) (text : String) (rest : List Char) :
    readValue (fuel + 1) (renderString text ++ rest) = some (.string (some text), rest) := by
  have ink : isBlank '"' = false := rfl
  rw [renderString, List.cons_append, List.append_assoc, readValue, skipBlank_of_not ink]
  simp [readString_text]

private theorem readValue_array (fuel : Nat) {blanks text : List Char} {c : Char} {items : List Source}
    {rest : List Char} (all : ∀ c ∈ blanks, isBlank c = true) (ink : isBlank c = false)
    (more : c ≠ ']') (read : readItems fuel (c :: text) = some (items, rest)) :
    readValue (fuel + 1) ('[' :: (blanks ++ c :: text)) = some (.array items, rest) := by
  have bracket : isBlank '[' = false := rfl
  rw [readValue, skipBlank_of_not bracket]
  simp only [skipBlank_append all, skipBlank_of_not ink]
  split
  · rename_i same
    cases same
    exact absurd rfl more
  · rw [read, Option.map_some]

private theorem readValue_object (fuel : Nat) {blanks text rest : List Char} {name : String}
    {members : List (Option String × Source)} (all : ∀ c ∈ blanks, isBlank c = true)
    (read : readMembers fuel (renderString name ++ text) = some (members, rest)) :
    readValue (fuel + 1) ('\x7b' :: (blanks ++ (renderString name ++ text))) =
      some (.object members, rest) := by
  have brace : isBlank '\x7b' = false := rfl
  have quote : isBlank '"' = false := rfl
  rw [readValue, skipBlank_of_not brace]
  simp only [renderString, List.cons_append] at read ⊢
  simp only [skipBlank_append all, skipBlank_of_not quote]
  exact congrArg (Option.map fun found => (Source.object found.1, found.2)) read

end Source

namespace Layout
variable {layout : Layout}

theorem write_head (layout : Layout) (depth : Nat) (value : Json) :
    ∃ c text, layout.write depth value = c :: text ∧ isBlank c = false ∧ c ≠ ']' := by
  cases value with
  | null => exact ⟨'n', _, rfl, rfl, by decide⟩
  | bool value =>
    cases value with
    | true => exact ⟨'t', _, rfl, rfl, by decide⟩
    | false => exact ⟨'f', _, rfl, rfl, by decide⟩
  | number number =>
    obtain ⟨c, text, shown, digit⟩ := Literal.render_head number
    exact ⟨c, text, shown, Source.isBlank_of_startsNumber digit,
      Source.ne_of_startsNumber digit (by decide)⟩
  | string text => exact ⟨'"', _, rfl, rfl, by decide⟩
  | array items =>
    cases items with
    | nil => exact ⟨'[', _, rfl, rfl, by decide⟩
    | cons => exact ⟨'[', _, rfl, rfl, by decide⟩
  | object members =>
    cases members with
    | nil => exact ⟨'\x7b', _, rfl, rfl, by decide⟩
    | cons => exact ⟨'\x7b', _, rfl, rfl, by decide⟩

theorem stops_append {blanks text : List Char} (all : ∀ c ∈ blanks, isBlank c = true)
    (stops : Stops text) : Stops (blanks ++ text) := by
  cases blanks with
  | nil => exact stops
  | cons c rest =>
    have blank : isBlank c = true := all c List.mem_cons_self
    simp only [isBlank, Bool.or_eq_true, decide_eq_true_eq] at blank
    rcases blank with ((rfl | rfl) | rfl) | rfl <;> exact ⟨rfl, by decide, by decide, by decide⟩

theorem stops_writeItems (layout : Layout) (depth : Nat) (items : List Json) (rest : List Char) :
    Stops (layout.writeItems depth items ++ rest) := by
  cases items with
  | nil =>
    rw [writeItems, List.append_assoc]
    exact stops_append (layout.line_blank depth) ⟨rfl, by decide, by decide, by decide⟩
  | cons item items => exact ⟨rfl, by decide, by decide, by decide⟩

theorem stops_writeMembers (layout : Layout) (depth : Nat) (members : List (String × Json))
    (rest : List Char) : Stops (layout.writeMembers depth members ++ rest) := by
  cases members with
  | nil =>
    rw [writeMembers, List.append_assoc]
    exact stops_append (layout.line_blank depth) ⟨rfl, by decide, by decide, by decide⟩
  | cons member members => exact ⟨rfl, by decide, by decide, by decide⟩

private theorem readItems_last (depth fuel : Nat) {text rest : List Char} {item : Source}
    (read : readValue fuel text = some (item, layout.writeItems depth [] ++ rest)) :
    readItems (fuel + 1) text = some ([item], rest) := by
  have bracket : isBlank ']' = false := rfl
  rw [readItems, read]
  simp [writeItems, Source.skipBlank_append (layout.line_blank depth),
    Source.skipBlank_of_not bracket]

private theorem readItems_more (depth fuel : Nat) {text rest : List Char} {item : Source} {next : Json}
    {others : List Json} {found : List Source}
    (read : readValue fuel text = some (item, layout.writeItems depth (next :: others) ++ rest))
    (more : readItems fuel (layout.write (depth + 1) next ++ (layout.writeItems depth others ++ rest)) =
      some (found, rest)) :
    readItems (fuel + 1) text = some (item :: found, rest) := by
  have comma : isBlank ',' = false := rfl
  rw [← Source.readItems_append (layout.line_blank (depth + 1))] at more
  rw [readItems, read]
  simp [writeItems, Source.skipBlank_of_not comma, more]

private theorem readMembers_last (depth fuel : Nat) {name : String} {text rest : List Char} {value : Source}
    (read : readValue fuel text = some (value, layout.writeMembers depth [] ++ rest)) :
    readMembers (fuel + 1) (renderString name ++ ':' :: text) = some ([(some name, value)], rest) := by
  have quote : isBlank '"' = false := rfl
  have colon : isBlank ':' = false := rfl
  have brace : isBlank '\x7d' = false := rfl
  rw [readMembers, renderString]
  simp [Source.skipBlank_of_not quote, Source.readString_text, Source.skipBlank_of_not colon, read,
    writeMembers, Source.skipBlank_append (layout.line_blank depth), Source.skipBlank_of_not brace]

private theorem readMembers_more (depth fuel : Nat) {name next : String} {text rest : List Char}
    {value : Source} {second : Json} {others : List (String × Json)}
    {found : List (Option String × Source)}
    (read : readValue fuel text =
      some (value, layout.writeMembers depth ((next, second) :: others) ++ rest))
    (more : readMembers fuel (renderString next ++ ':' :: (layout.gap ++
        (layout.write (depth + 1) second ++ (layout.writeMembers depth others ++ rest)))) =
      some (found, rest)) :
    readMembers (fuel + 1) (renderString name ++ ':' :: text) =
      some ((some name, value) :: found, rest) := by
  have quote : isBlank '"' = false := rfl
  have colon : isBlank ':' = false := rfl
  have comma : isBlank ',' = false := rfl
  rw [← Source.readMembers_append (layout.line_blank (depth + 1))] at more
  rw [readMembers]
  simp only [renderString, List.cons_append, List.append_assoc, List.nil_append] at more ⊢
  simp [renderString, Source.skipBlank_of_not quote, Source.readString_text,
    Source.skipBlank_of_not colon, read, writeMembers, Source.skipBlank_of_not comma, more]

theorem length_write_pos (layout : Layout) (depth : Nat) (value : Json) :
    0 < (layout.write depth value).length := by
  obtain ⟨c, text, shown, -, -⟩ := write_head layout depth value
  rw [shown]
  exact Nat.zero_lt_succ _

theorem length_writeItems_pos (layout : Layout) (depth : Nat) (items : List Json) :
    0 < (layout.writeItems depth items).length := by
  cases items with
  | nil => simp [writeItems]
  | cons item items => exact Nat.zero_lt_succ _

theorem length_writeMembers_pos (layout : Layout) (depth : Nat) (members : List (String × Json)) :
    0 < (layout.writeMembers depth members).length := by
  cases members with
  | nil => simp [writeMembers]
  | cons member members => exact Nat.zero_lt_succ _

mutual

/-- The length of the text is fuel enough: every call spends one unit, and reads a character or more
before the next. The lists are taken from where their first item has been read. -/
theorem readValue_write (layout : Layout) : ∀ (value : Json) (depth fuel : Nat) (rest : List Char),
    Stops rest → (layout.write depth value).length ≤ fuel →
      readValue fuel (layout.write depth value ++ rest) = some (ofWritten value, rest)
  | .null, _, fuel + 1, rest, _, _ => by
    have letter : isBlank 'n' = false := rfl
    simp [write, render, readValue, Source.skipBlank_of_not letter, ofWritten]
  | .bool b, _, fuel + 1, rest, _, _ => by
    have letter : isBlank 't' = false ∧ isBlank 'f' = false := ⟨rfl, rfl⟩
    cases b <;>
      simp [write, render, readValue, Source.skipBlank_of_not letter.1,
        Source.skipBlank_of_not letter.2, ofWritten]
  | .number n, depth, fuel + 1, rest, stops, _ => by
    obtain ⟨c, text, shown, digit⟩ := Literal.render_head n
    obtain ⟨literal, value, all⟩ := Literal.read_reread n
    have read := all rest stops
    rw [shown, List.cons_append] at read
    rw [write, render, shown, List.cons_append, Source.readValue_number fuel digit read, value, ofWritten]
    all_goals exact nofun
  | .string text, _, fuel + 1, rest, _, _ => Source.readValue_string fuel text rest
  | .array [], _, fuel + 1, rest, _, _ => by
    have brackets : isBlank '[' = false ∧ isBlank ']' = false := ⟨rfl, rfl⟩
    simp [write, render, readValue, Source.skipBlank_of_not brackets.1,
      Source.skipBlank_of_not brackets.2, ofWritten, ofWrittenItems]
  | .object [], _, fuel + 1, rest, _, _ => by
    have braces : isBlank '\x7b' = false ∧ isBlank '\x7d' = false := ⟨rfl, rfl⟩
    simp [write, render, readValue, Source.skipBlank_of_not braces.1,
      Source.skipBlank_of_not braces.2, ofWritten, ofWrittenMembers]
  | .array (item :: others), depth, fuel + 1, rest, _, enough => by
    have head := length_write_pos layout (depth + 1) item
    have tail := length_writeItems_pos layout depth others
    simp only [write, List.length_cons, List.length_append] at enough
    obtain ⟨fuel, rfl⟩ : ∃ left, fuel = left + 1 := ⟨fuel - 1, by omega⟩
    have first := readValue_write layout item (depth + 1) fuel _
      (stops_writeItems layout depth others rest) (by omega)
    have read := readItems_write layout others depth fuel _ _ rest first (by omega)
    obtain ⟨c, text, head, ink, more⟩ := write_head layout (depth + 1) item
    rw [head, List.cons_append] at read
    have whole := Source.readValue_array _ (layout.line_blank (depth + 1)) ink more read
    simpa only [write, head, ofWritten, ofWrittenItems, List.cons_append, List.append_assoc] using whole
  | .object ((name, value) :: others), depth, fuel + 1, rest, _, enough => by
    have tail := length_writeMembers_pos layout depth others
    simp only [write, List.length_cons, List.length_append] at enough
    obtain ⟨fuel, rfl⟩ : ∃ left, fuel = left + 1 := ⟨fuel - 1, by omega⟩
    have first := readValue_write layout value (depth + 1) fuel _
      (stops_writeMembers layout depth others rest) (by omega)
    rw [← Source.readValue_append layout.gap_blank] at first
    have read := readMembers_write layout others depth fuel name _ _ rest first (by omega)
    have whole := Source.readValue_object _ (layout.line_blank (depth + 1)) read
    simpa only [write, ofWritten, ofWrittenMembers, List.cons_append, List.append_assoc] using whole
  | value, _, 0, _, _, enough => absurd (length_write_pos layout _ value) (Nat.not_lt.mpr enough)

theorem readItems_write (layout : Layout) : ∀ (others : List Json) (depth fuel : Nat)
    (item : Source) (text rest : List Char),
    readValue fuel text = some (item, layout.writeItems depth others ++ rest) →
    (layout.writeItems depth others).length ≤ fuel →
      readItems (fuel + 1) text = some (item :: ofWrittenItems others, rest)
  | [], depth, fuel, _, _, _, read, _ => readItems_last depth fuel read
  | next :: others, depth, fuel, item, text, rest, read, enough => by
    have tail := length_writeItems_pos layout depth others
    simp only [writeItems, List.length_cons, List.length_append] at enough
    obtain ⟨fuel, rfl⟩ : ∃ left, fuel = left + 1 := ⟨fuel - 1, by omega⟩
    have second := readValue_write layout next (depth + 1) fuel _
      (stops_writeItems layout depth others rest) (by omega)
    exact readItems_more depth _ read
      (readItems_write layout others depth fuel _ _ rest second (by omega))

theorem readMembers_write (layout : Layout) : ∀ (others : List (String × Json))
    (depth fuel : Nat) (name : String) (value : Source) (text rest : List Char),
    readValue fuel text = some (value, layout.writeMembers depth others ++ rest) →
    (layout.writeMembers depth others).length ≤ fuel →
      readMembers (fuel + 1) (renderString name ++ ':' :: text) =
        some ((some name, value) :: ofWrittenMembers others, rest)
  | [], depth, fuel, _, _, _, _, read, _ => readMembers_last depth fuel read
  | (next, second) :: others, depth, fuel, name, value, text, rest, read, enough => by
    have tail := length_writeMembers_pos layout depth others
    simp only [writeMembers, List.length_cons, List.length_append] at enough
    obtain ⟨fuel, rfl⟩ : ∃ left, fuel = left + 1 := ⟨fuel - 1, by omega⟩
    have found := readValue_write layout second (depth + 1) fuel _
      (stops_writeMembers layout depth others rest) (by omega)
    rw [← Source.readValue_append layout.gap_blank] at found
    exact readMembers_more depth _ read
      (readMembers_write layout others depth fuel next _ _ rest found (by omega))

end

/-- A written value is read to its end. -/
theorem parse?_write (layout : Layout) (value : Json) :
    Source.parse? (String.ofList (layout.write 0 value)) = some (ofWritten value) := by
  have read := readValue_write layout value 0 (2 * (layout.write 0 value).length + 2) [] trivial (by omega)
  rw [List.append_nil] at read
  simp [Source.parse?, String.toList_ofList, read, Source.skipBlank]

end Layout
end ProxyWatch.Json
