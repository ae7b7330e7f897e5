import ProxyWatch.Proofs.Document.Resending
import ProxyWatch.Proofs.Url.Splitting

/-! What a patch leaves as it is.

A patch that stays at or below a place changes nothing beside the place, and nothing above it but by what is below.
That needs objects above the place: an item that is put into an array moves those behind it. -/
namespace ProxyWatch

namespace Pointer
variable {place outer : Pointer}

/-- The place is the other, or somewhere in the value at the other, by the texts of both. -/
def IsAtOrBelow (outer place : Pointer) : Prop :=
  place.toText = outer.toText ∨ ∃ rest, place.toText = outer.toText ++ "/" ++ rest

/-- The text of some tokens. -/
def textOf (tokens : List String) : List Char := tokens.flatMap fun token => '/' :: escape token.toList

theorem toText_toList (place : Pointer) : place.toText.toList = textOf place.tokens := String.toList_ofList

theorem head_textOf (tokens : List String) : ∀ c ∈ (textOf tokens).head?, c = '/' := by
  cases tokens with
  | nil => simp [textOf]
  | cons token rest => simp [textOf]

private theorem textOf_cons_inj {token other : String} {rest more : List Char} (stop : ∀ c ∈ rest.head?, c = '/')
    (otherStop : ∀ c ∈ more.head?, c = '/')
    (same : '/' :: escape token.toList ++ rest = '/' :: escape other.toList ++ more) : token = other ∧ rest = more := by
  have plain (token : String) : '/' ∉ escape token.toList := fun member => not_slash_of_mem_escape member rfl
  have same : escape token.toList ++ rest = escape other.toList ++ more := List.tail_eq_of_cons_eq same
  obtain ⟨first, later⟩ := Url.span_mark (plain token) stop
  obtain ⟨otherFirst, otherLater⟩ := Url.span_mark (plain other) otherStop
  have escaped : escape token.toList = escape other.toList := by rw [← first, ← otherFirst, same]
  have read := congrArg unescape escaped
  rw [unescape_escape, unescape_escape, Option.some.injEq, String.toList_inj] at read
  exact ⟨read, by rw [← later, ← otherLater, same]⟩

theorem isPrefix_of_textOf {outer tokens : List String} {rest : List Char} (stop : ∀ c ∈ rest.head?, c = '/')
    (same : textOf tokens = textOf outer ++ rest) : outer <+: tokens := by
  induction outer generalizing tokens with
  | nil => exact List.nil_prefix
  | cons token outer ih =>
    cases tokens with
    | nil => cases same
    | cons head tokens =>
      have stopped : ∀ c ∈ (textOf outer ++ rest).head?, c = '/' := by
        cases outer with
        | nil => exact stop
        | cons next outer => exact head_textOf (next :: outer)
      obtain ⟨rfl, later⟩ := textOf_cons_inj (head_textOf tokens) stopped (by simpa [textOf] using same)
      exact List.cons_prefix_cons.mpr ⟨rfl, ih later⟩

/-- By their texts as by their tokens, places stand in one another. -/
theorem isAtOrBelow_iff : IsAtOrBelow outer place ↔ outer.tokens <+: place.tokens := by
  simp only [IsAtOrBelow, ← String.toList_inj, String.toList_append, toText_toList]
  constructor
  · rintro (same | ⟨rest, same⟩)
    · exact isPrefix_of_textOf (by simp) (same.trans (List.append_nil _).symm)
    · have slash : ∀ c ∈ ("/".toList ++ rest.toList).head?, c = '/' := by simp
      exact isPrefix_of_textOf slash (same.trans (List.append_assoc _ _ _))
  · rintro ⟨rest, same⟩
    have whole : textOf place.tokens = textOf outer.tokens ++ textOf rest := by
      rw [← same, textOf, List.flatMap_append]
      rfl
    cases rest with
    | nil => exact .inl (whole.trans (List.append_nil _))
    | cons token rest =>
      refine .inr ⟨String.ofList (escape token.toList ++ textOf rest), whole.trans ?_⟩
      simp [textOf]

example : (Pointer.mk ["connections", "a/b~"]).toText = "/connections/a~1b~0" := by decide

theorem parent?_concat (front : List String) (last : String) : parent? ⟨front ++ [last]⟩ = some (front, last) := by
  simp [parent?]

end Pointer

namespace Json
variable {place : List String} {token : String} {document next later value : Json}
  {members old new : Json.Members} {change : Json → Option Json}

/-- All values above a place are objects. -/
inductive HasRoomFor : List String → Json → Prop
  | last (token : String) (members : Json.Members) : HasRoomFor [token] (.object members)
  | within {token : String} {rest : List String} {members : Json.Members} {child : Json}
      (found : Dictionary.get? members token = some child) (inner : HasRoomFor rest child) :
      HasRoomFor (token :: rest) (.object members)

/-- Nothing is another than before but what is at a place. -/
inductive DiffersAt : List String → Json → Json → Prop
  | last {token : String} {old new : Json.Members}
      (others : ∀ other, other ≠ token → Dictionary.get? new other = Dictionary.get? old other) :
      DiffersAt [token] (.object old) (.object new)
  | within {token : String} {rest : List String} {old new : Json.Members} {before after : Json}
      (others : ∀ other, other ≠ token → Dictionary.get? new other = Dictionary.get? old other)
      (found : Dictionary.get? old token = some before) (changed : Dictionary.get? new token = some after)
      (inner : DiffersAt rest before after) : DiffersAt (token :: rest) (.object old) (.object new)

theorem HasRoomFor.differsAt (room : HasRoomFor place document) : DiffersAt place document document := by
  induction room with
  | last token members => exact .last fun _ _ => rfl
  | within found inner ih => exact .within (fun _ _ => rfl) found found ih

theorem DiffersAt.hasRoomFor (differs : DiffersAt place document next) : HasRoomFor place next := by
  induction differs with
  | last others => exact .last _ _
  | within others found changed inner ih => exact .within changed ih

theorem DiffersAt.trans (first : DiffersAt place document next) (second : DiffersAt place next later) :
    DiffersAt place document later := by
  induction first generalizing later with
  | last others =>
    cases second with
    | last more => exact .last fun other apart => (more other apart).trans (others other apart)
    | within more found changed inner => cases inner
  | within others found changed inner ih =>
    cases second with
    | last more => cases inner
    | within more foundNext changedNext innerNext =>
      obtain rfl := Option.some.inj (changed.symm.trans foundNext)
      exact .within (fun other apart => (more other apart).trans (others other apart)) found changedNext (ih innerNext)

theorem get?_insert_of_ne (members : Json.Members) (value : Json) (other : String) (apart : other ≠ token) :
    Dictionary.get? (Dictionary.insert members token value) other = Dictionary.get? members other := by
  rw [Dictionary.get?_insert, if_neg apart.symm]

theorem get?_insert_self (members : Json.Members) (token : String) (value : Json) :
    Dictionary.get? (Dictionary.insert members token value) token = some value := by
  rw [Dictionary.get?_insert, if_pos rfl]

theorem modify?_object_eq_some {rest : List String}
    (changed : Json.modify? change (token :: rest) (.object members) = some next) :
    ∃ child after, Dictionary.get? members token = some child ∧ Json.modify? change rest child = some after ∧
      next = .object (Dictionary.insert members token after) := by
  obtain ⟨child, found, changed⟩ := Option.bind_eq_some_iff.mp changed
  obtain ⟨after, childChanged, same⟩ := Option.bind_eq_some_iff.mp changed
  exact ⟨child, after, found, childChanged, (Option.some.inj same).symm⟩

/-- A change at a place or below it. -/
theorem HasRoomFor.modify? (room : HasRoomFor place document) (rest : List String)
    (changed : document.modify? change (place ++ rest) = some next) : DiffersAt place document next := by
  induction room generalizing next with
  | last token members =>
    obtain ⟨child, after, -, -, rfl⟩ := modify?_object_eq_some changed
    exact .last (get?_insert_of_ne members after)
  | @within token inner members child found room ih =>
    obtain ⟨same, after, foundSame, childChanged, rfl⟩ := modify?_object_eq_some changed
    obtain rfl := Option.some.inj (found.symm.trans foundSame)
    exact .within (get?_insert_of_ne members after) found (get?_insert_self members token after) (ih childChanged)

private theorem HasRoomFor.modify?_parent {front : List String} (room : HasRoomFor place document)
    (parent : place = front ++ [token])
    (only : ∀ {members : Json.Members} {next : Json}, change (.object members) = some next →
      DiffersAt [token] (.object members) next)
    (changed : document.modify? change front = some next) : DiffersAt place document next := by
  induction room generalizing front next with
  | last name members =>
    obtain ⟨rfl, same⟩ : front = [] ∧ token = name := by simpa [List.singleton_eq_append_iff] using parent
    exact same ▸ only changed
  | @within name rest members child found inner ih =>
    cases front with
    | nil =>
      obtain ⟨-, rfl⟩ := List.cons.inj parent
      cases inner
    | cons head front =>
      obtain ⟨rfl, behind⟩ := List.cons.inj parent
      obtain ⟨same, after, foundSame, childChanged, rfl⟩ := modify?_object_eq_some changed
      obtain rfl := Option.some.inj (found.symm.trans foundSame)
      exact .within (get?_insert_of_ne members after) found (get?_insert_self members name after)
          (ih behind childChanged)

private theorem differsAt_insertChild? (inserted : Json.insertChild? token value (.object members) = some next) :
    DiffersAt [token] (.object members) next := by
  cases inserted
  exact .last (get?_insert_of_ne members value)

private theorem differsAt_removeChild? (removed : Json.removeChild? token (.object members) = some next) :
    DiffersAt [token] (.object members) next := by
  simp only [Json.removeChild?] at removed
  split at removed
  · cases removed
    refine .last fun other apart => ?_
    rw [Dictionary.get?_erase, if_neg apart.symm]
  · cases removed

theorem HasRoomFor.modify?_of_isPrefix {front : List String} (room : HasRoomFor place document)
    (within : place <+: front ++ [token])
    (only : ∀ {members : Json.Members} {next : Json}, change (.object members) = some next →
      DiffersAt [token] (.object members) next)
    (changed : document.modify? change front = some next) : DiffersAt place document next := by
  obtain same | ⟨rest, rfl⟩ := List.prefix_concat_iff.mp within
  · exact room.modify?_parent same only changed
  · exact room.modify? rest changed

end Json

open Json (HasRoomFor DiffersAt)

namespace Pointer
variable {place : List String} {path : Pointer} {document next value : Json}

theorem exists_concat (room : HasRoomFor place document) (within : place <+: path.tokens) :
    ∃ front last, path = ⟨front ++ [last]⟩ := by
  obtain ⟨tokens⟩ := path
  obtain rfl | ⟨front, last, rfl⟩ := List.eq_nil_or_concat tokens
  · obtain rfl := List.prefix_nil.mp within
    cases room
  · exact ⟨front, last, by rw [List.concat_eq_append]⟩

theorem differsAt_of_insert? (room : HasRoomFor place document) (within : place <+: path.tokens)
    (inserted : path.insert? value document = some next) : DiffersAt place document next := by
  obtain ⟨front, last, rfl⟩ := exists_concat room within
  rw [insert?, parent?_concat] at inserted
  exact room.modify?_of_isPrefix within Json.differsAt_insertChild? inserted

theorem differsAt_of_remove? (room : HasRoomFor place document) (within : place <+: path.tokens)
    (removed : path.remove? document = some next) : DiffersAt place document next := by
  obtain ⟨front, last, rfl⟩ := exists_concat room within
  rw [remove?, parent?_concat] at removed
  exact room.modify?_of_isPrefix within Json.differsAt_removeChild? removed

private theorem differsAt_of_replace? (room : HasRoomFor place document) (within : place <+: path.tokens)
    (replaced : path.replace? value document = some next) : DiffersAt place document next := by
  obtain ⟨rest, same⟩ := within
  rw [replace?, ← same] at replaced
  exact room.modify? rest replaced

end Pointer

/-- The places that an operation names. -/
def Operation.places : Operation → List Pointer
  | add path _ | remove path | replace path _ | test path _ => [path]
  | move source path | copy source path => [source, path]

/-- An operation at or below a place changes nothing else. -/
theorem Operation.differsAt_of_apply {operation : Operation} {place : List String} {document next : Json}
    (room : HasRoomFor place document) (within : ∀ path ∈ operation.places, place <+: path.tokens)
    (applied : operation.apply document = .ok next) : DiffersAt place document next := by
  cases operation with
  | add path value => exact Pointer.differsAt_of_insert? room (within path (by simp [places])) (orFail_eq_ok applied)
  | remove path => exact Pointer.differsAt_of_remove? room (within path (by simp [places])) (orFail_eq_ok applied)
  | replace path value =>
    exact Pointer.differsAt_of_replace? room (within path (by simp [places])) (orFail_eq_ok applied)
  | move source path =>
    simp only [Operation.apply] at applied
    split at applied
    · cases applied
    obtain ⟨rest, removed, applied⟩ := bind_eq_ok applied
    obtain ⟨value, -, applied⟩ := bind_eq_ok applied
    have first := Pointer.differsAt_of_remove? room (within source (by simp [places])) (orFail_eq_ok removed)
    exact first.trans (Pointer.differsAt_of_insert? first.hasRoomFor (within path (by simp [places]))
      (orFail_eq_ok applied))
  | copy source path =>
    obtain ⟨value, -, applied⟩ := bind_eq_ok applied
    exact Pointer.differsAt_of_insert? room (within path (by simp [places])) (orFail_eq_ok applied)
  | test path expected =>
    obtain ⟨found, -, applied⟩ := bind_eq_ok applied
    split at applied
    · cases applied
      exact room.differsAt
    · cases applied

/-- So does a patch, operation by operation. -/
theorem Patch.differsAt_of_apply {patch : Patch} {place : List String} {document next : Json}
    (room : HasRoomFor place document)
    (within : ∀ operation ∈ patch, ∀ path ∈ operation.places, place <+: path.tokens)
    (applied : patch.apply document = .ok next) : DiffersAt place document next := by
  suffices ∀ index, applyFrom index document patch = .ok next → DiffersAt place document next from this 0 applied
  clear applied
  induction patch generalizing document with
  | nil =>
    intro index applied
    cases applied
    exact room.differsAt
  | cons operation rest ih =>
    intro index applied
    simp only [applyFrom] at applied
    split at applied
    · rename_i middle moved
      have first := operation.differsAt_of_apply room (within operation List.mem_cons_self) moved
      exact first.trans (ih first.hasRoomFor (fun other member => within other (.tail _ member)) _ applied)
    · cases applied

end ProxyWatch
