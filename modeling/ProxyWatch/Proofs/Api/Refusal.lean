import Mathlib
import ProxyWatch.Api.RequestError
import ProxyWatch.Proofs.Data.Gathered
import ProxyWatch.Proofs.Json.Extent
import ProxyWatch.Proofs.Json.Records

/-! Which message is shown for an answer that is no success.

An interface tells why it refuses as an object with an `error`. That record is read from the tree of a body, not from
its value: it may be written as a list as well, and the members beside it need no value. So a body that tells no error
can be taken for one that does. -/
namespace ProxyWatch.Api.RequestError
open Json (Source)
variable {status : Nat} {body text : String}

/-- The members of an object that gives its error once, as a text. All their names are texts; of the other members
nothing is asked. -/
structure GivesError (written : List (Option String × Source)) (text : String) : Prop where
  named : ∀ member ∈ written, member.1 ≠ none
  once : (written.map (·.1)).count (some "error") ≤ 1
  error : (some "error", .string (some text)) ∈ written

/-- A body that is JSON, an object that has one error, which is a text. -/
structure Tells (body text : String) : Prop where
  error : ∃ document, Json.parse? body = some document ∧ document.member? "error" = some (.string text)
  single : ∀ written, Source.parse? body = some (.object written) → (written.map (·.1)).count (some "error") ≤ 1

/-- A body in which an error is found although it does not tell one: a list of a text and nothing else, and an object
with a part beside its error that stands for no value or is nested too deep. -/
inductive IsMistaken (body text : String) : Prop where
  | listed (single : Json.parse? body = some (.array [.string text])) : IsMistaken body text
  | invalid {written : List (Option String × Source)} (parsed : Source.parse? body = some (.object written))
      (gives : GivesError written text) (valueless : Json.parse? body = none) : IsMistaken body text

/-- The message that an answer should have: the error that its body tells; or the body itself, without the blanks at
its ends; or the phrase of its status. -/
inductive Documented (status : Nat) (body : String) : String → Prop where
  | error {text : String} (tells : Tells body text) : Documented status body text
  | body (silent : ∀ text, ¬ Tells body text) (ink : Text.isBlankText body = false) :
      Documented status body (Text.trim body)
  | phrase (blank : Text.isBlankText body = true) :
      Documented status body ((reasonPhrase? status).getD "request failed")

theorem parse?_eq_value? {tree : Source} (parsed : Source.parse? body = some tree) :
    Json.parse? body = tree.value? Source.nestingLimit := by
  rw [Json.parse?, parsed]
  rfl

theorem errorText?_of_tree {tree : Source} (parsed : Source.parse? body = some tree) :
    errorText? body = some text ↔ tree.slots? ["error"] = some [some (.string (some text))] := by
  rw [errorText?, parsed, Option.bind_eq_bind, Option.bind_some]
  match tree.slots? ["error"] with
  | none | some [] | some [none] | some (_ :: _ :: _) => simp
  | some [some error] => simp [Source.text?_eq_some_iff]

theorem errorText?_of_array {items : List Source} (parsed : Source.parse? body = some (.array items)) :
    errorText? body = some text ↔ items = [.string (some text)] := by
  rw [errorText?_of_tree parsed, Source.slots?]
  cases items with
  | nil => simp
  | cons item rest => cases rest <;> simp

theorem errorText?_of_object {written : List (Option String × Source)}
    (parsed : Source.parse? body = some (.object written)) :
    errorText? body = some text ↔ GivesError written text := by
  rw [errorText?_of_tree parsed, Source.slots?_of_object_iff, List.map_singleton, List.forall_mem_singleton]
  constructor
  · rintro ⟨named, once, placed⟩
    obtain ⟨member, first, shown⟩ := Option.map_eq_some_iff.mp (List.cons.inj placed).1.symm
    obtain ⟨name, source⟩ := member
    obtain rfl : name = some "error" := by simpa using List.find?_some first
    obtain rfl : source = .string (some text) := shown
    exact ⟨named, once, List.mem_of_find?_eq_some first⟩
  · intro gives
    refine ⟨gives.named, gives.once, ?_⟩
    rw [Source.find?_of_count gives.error gives.once]
    rfl

theorem parse?_array_iff {items : List Source} (parsed : Source.parse? body = some (.array items)) :
    Json.parse? body = some (.array [.string text]) ↔ items = [.string (some text)] := by
  rw [parse?_eq_value? parsed, Source.nestingLimit, Source.value?, Option.map_eq_some_iff]
  constructor
  · rintro ⟨values, read, same⟩
    obtain rfl := Json.array.inj same
    obtain ⟨item, rfl, shown⟩ := Source.values?_eq_single_iff.mp read
    rw [Source.value?_eq_string_iff.mp shown]
  · rintro rfl
    exact ⟨_, Source.values?_eq_single_iff.mpr ⟨_, rfl, Source.value?_eq_string_iff.mpr rfl⟩, rfl⟩

theorem Tells.exists_object (tells : Tells body text) : ∃ written, Source.parse? body = some (.object written) := by
  obtain ⟨⟨document, valid, error⟩, -⟩ := tells
  obtain ⟨tree, parsed, valued⟩ := Option.bind_eq_some_iff.mp valid
  cases document with
  | object members =>
    obtain ⟨written, rfl⟩ := Source.exists_object_of_value? valued
    exact ⟨written, parsed⟩
  | null | bool | number | string | array => cases error

theorem GivesError.only {written : List (Option String × Source)} {source : Source} (gives : GivesError written text)
    (among : (some "error", source) ∈ written) : source = .string (some text) := by
  have found := Source.find?_of_count among gives.once
  have given := Source.find?_of_count gives.error gives.once
  exact (Prod.mk.inj (Option.some.inj (found.symm.trans given))).2

theorem parse?_object {written : List (Option String × Source)} (parsed : Source.parse? body = some (.object written)) :
    Json.parse? body = (Source.members? 126 written).map fun found => .object (Dictionary.ofList found) := by
  rw [parse?_eq_value? parsed, Source.nestingLimit, Source.value?]

theorem tells_iff {written : List (Option String × Source)} (parsed : Source.parse? body = some (.object written)) :
    Tells body text ↔ GivesError written text ∧ Json.parse? body ≠ none := by
  constructor
  · rintro ⟨⟨document, valid, error⟩, single⟩
    refine ⟨?_, Option.ne_none_iff_exists'.mpr ⟨document, valid⟩⟩
    rw [parse?_object parsed] at valid
    obtain ⟨found, read, rfl⟩ := Option.map_eq_some_iff.mp valid
    have listed := Dictionary.mem_ofList (Dictionary.mem_of_get? error)
    obtain ⟨source, among, valued⟩ := (Source.mem_iff_of_members? read).mp listed
    obtain rfl := Source.value?_eq_string_iff.mp valued
    exact ⟨Source.named_of_members? read, single written parsed, among⟩
  · rintro ⟨gives, valid⟩
    obtain ⟨document, read⟩ := Option.ne_none_iff_exists'.mp valid
    refine ⟨⟨document, read, ?_⟩, ?_⟩
    · rw [parse?_object parsed] at read
      obtain ⟨found, membersRead, rfl⟩ := Option.map_eq_some_iff.mp read
      have listed : ("error", .string text) ∈ found :=
        (Source.mem_iff_of_members? membersRead).mpr ⟨_, gives.error, Source.value?_eq_string_iff.mpr rfl⟩
      obtain ⟨value, error⟩ := Option.isSome_iff_exists.mp
        (Dictionary.get?_ofList_isSome (List.mem_map_of_mem listed))
      have last := Dictionary.mem_ofList (Dictionary.mem_of_get? error)
      obtain ⟨source, among, valued⟩ := (Source.mem_iff_of_members? membersRead).mp last
      -- the member that has this value is the one that gives the error, as there is no other
      obtain rfl := gives.only among
      exact error.trans valued.symm
    · intro others same
      cases parsed.symm.trans same
      exact gives.once

/-- An error is found where one is told, and in the two kinds of bodies that are mistaken for such. -/
theorem errorText?_eq_some_iff : errorText? body = some text ↔ Tells body text ∨ IsMistaken body text := by
  constructor
  · intro read
    obtain ⟨tree, parsed, -⟩ := Option.bind_eq_some_iff.mp read
    cases tree with
    | array items =>
      rw [errorText?_of_array parsed, ← parse?_array_iff parsed] at read
      exact .inr (.listed read)
    | object written =>
      have gives := (errorText?_of_object parsed).mp read
      by_cases valid : Json.parse? body = none
      · exact .inr (.invalid parsed gives valid)
      · exact .inl ((tells_iff parsed).mpr ⟨gives, valid⟩)
    | null | bool | number | string =>
      rw [errorText?_of_tree parsed] at read
      cases read
  · rintro (tells | single | ⟨parsed, gives, -⟩)
    · obtain ⟨written, parsed⟩ := tells.exists_object
      exact (errorText?_of_object parsed).mpr ((tells_iff parsed).mp tells).1
    · obtain ⟨tree, parsed, valued⟩ := Option.bind_eq_some_iff.mp single
      obtain ⟨items, rfl⟩ := Source.exists_array_of_value? valued
      exact (errorText?_of_array parsed).mpr ((parse?_array_iff parsed).mp single)
    · exact (errorText?_of_object parsed).mpr gives

theorem Tells.unique {other : String} (tells : Tells body text) (others : Tells body other) : text = other := by
  obtain ⟨⟨document, valid, error⟩, -⟩ := tells
  obtain ⟨⟨again, same, error'⟩, -⟩ := others
  cases valid.symm.trans same
  exact Json.string.inj (Option.some.inj (error.symm.trans error'))

private theorem trim_of_isBlankText (blank : Text.isBlankText body = true) : Text.trim body = "" := by
  have none : body.toList.dropWhile Text.isBlank = [] :=
    List.dropWhile_eq_nil_iff.mpr (List.all_eq_true.mp blank)
  rw [Text.trim, none]
  rfl

theorem message_ofResponse (status : Nat) (body : String) : (ofResponse status body).message =
    (errorText? body).getD
      (if Text.isBlankText body then (reasonPhrase? status).getD "request failed" else Text.trim body) := by
  unfold ofResponse message
  cases errorText? body with
  | none => simp only [Option.getD_none]
  | some text => simp only [Option.getD_some]

theorem length_lt_of_child {tree : Source} (parsed : Source.parse? body = some tree)
    (among : Source.string (some text) ∈ tree.children) : text.length < (Text.trim body).length :=
  Source.quoted_lt_trim parsed among

theorem GivesError.length_lt {written : List (Option String × Source)} (gives : GivesError written text)
    (parsed : Source.parse? body = some (.object written)) : text.length < (Text.trim body).length :=
  length_lt_of_child parsed (List.mem_map.mpr ⟨_, gives.error, rfl⟩)

theorem IsMistaken.length_lt (mistaken : IsMistaken body text) : text.length < (Text.trim body).length := by
  cases mistaken with
  | listed single =>
    obtain ⟨tree, parsed, valued⟩ := Option.bind_eq_some_iff.mp single
    obtain ⟨items, rfl⟩ := Source.exists_array_of_value? valued
    obtain rfl := (parse?_array_iff parsed).mp single
    exact length_lt_of_child parsed List.mem_cons_self
  | invalid parsed gives _ => exact gives.length_lt parsed

theorem Tells.length_lt (tells : Tells body text) : text.length < (Text.trim body).length := by
  obtain ⟨written, parsed⟩ := tells.exists_object
  exact ((tells_iff parsed).mp tells).1.length_lt parsed

theorem IsMistaken.silent {other : String} (mistaken : IsMistaken body text) : ¬ Tells body other := by
  intro tells
  obtain ⟨written, parsed⟩ := tells.exists_object
  cases mistaken with
  | listed single =>
    obtain ⟨tree, again, valued⟩ := Option.bind_eq_some_iff.mp single
    obtain ⟨items, rfl⟩ := Source.exists_array_of_value? valued
    cases parsed.symm.trans again
  | invalid _ _ valueless => exact ((tells_iff parsed).mp tells).2 valueless

theorem not_isBlankText_of_length_lt (shorter : text.length < (Text.trim body).length) :
    Text.isBlankText body = false := by
  rw [Bool.eq_false_iff]
  intro blank
  rw [trim_of_isBlankText blank, String.length_empty] at shorter
  exact absurd shorter (Nat.not_lt_zero _)

theorem Documented.unique {shown other : String} (documented : Documented status body shown)
    (others : Documented status body other) : shown = other := by
  cases documented with
  | error tells =>
    cases others with
    | error again => exact tells.unique again
    | body silent _ => exact absurd tells (silent _)
    | phrase blank => cases blank.symm.trans (not_isBlankText_of_length_lt tells.length_lt)
  | body silent ink =>
    cases others with
    | error tells => exact absurd tells (silent _)
    | body => rfl
    | phrase blank => cases blank.symm.trans ink
  | phrase blank =>
    cases others with
    | error tells => cases blank.symm.trans (not_isBlankText_of_length_lt tells.length_lt)
    | body _ ink => cases blank.symm.trans ink
    | phrase => rfl

theorem IsMistaken.documented (mistaken : IsMistaken body text) : Documented status body (Text.trim body) :=
  .body (fun _ => mistaken.silent) (not_isBlankText_of_length_lt mistaken.length_lt)

private theorem documented_message (exact : ∀ text, ¬ IsMistaken body text) :
    Documented status body (ofResponse status body).message := by
  rw [message_ofResponse]
  cases read : errorText? body with
  | some text => exact .error ((errorText?_eq_some_iff.mp read).resolve_right (exact text))
  | none =>
    rw [Option.getD_none]
    by_cases blank : Text.isBlankText body = true
    · rw [if_pos blank]
      exact .phrase blank
    · rw [if_neg blank]
      refine .body (fun text tells => ?_) (Bool.eq_false_iff.mpr blank)
      cases read.symm.trans (errorText?_eq_some_iff.mpr (.inl tells))

/-- The message of a refused request is the documented one, but for two kinds of bodies. A list of a single text, and an
object that gives an error beside a part that has no value or is nested too deep, should be shown as they are; of each
only the text within is shown, which is less. -/
theorem message_of_body (status : Nat) (body : String) :
    (Documented status body (ofResponse status body).message ↔ ∀ text, ¬ IsMistaken body text) ∧
    (∀ text, Tells body text → (ofResponse status body).message = text) ∧
    ∀ text, IsMistaken body text → (ofResponse status body).message = text ∧
      Documented status body (Text.trim body) ∧ text.length < (Text.trim body).length := by
  have found {text : String} (given : Tells body text ∨ IsMistaken body text) :
      (ofResponse status body).message = text := by
    rw [message_ofResponse, errorText?_eq_some_iff.mpr given, Option.getD_some]
  refine ⟨⟨fun documented text mistaken => ?_, documented_message⟩, fun text tells => found (.inl tells),
    fun text mistaken => ⟨found (.inr mistaken), mistaken.documented, mistaken.length_lt⟩⟩
  -- the text within would be the whole body, which is longer
  have whole := documented.unique mistaken.documented
  rw [found (.inr mistaken)] at whole
  exact absurd mistaken.length_lt (whole ▸ lt_irrefl _)

/-- Of an error beside a text that is none, the error is shown alone. -/
theorem message_of_body_beside_surrogate :
    Tells "\x7b\"error\":\"slow\"\x7d" "slow" ∧
      (ofResponse 504 "\x7b\"error\":\"slow\"\x7d").message = "slow" ∧
      IsMistaken "\x7b\"error\":\"slow\",\"peer\":\"\\ud800\"\x7d" "slow" ∧
      (ofResponse 504 "\x7b\"error\":\"slow\",\"peer\":\"\\ud800\"\x7d").message = "slow" := by
  have parsed : Source.parse? "\x7b\"error\":\"slow\"\x7d" =
      some (.object [(some "error", .string (some "slow"))]) := by cbv
  have loose : Source.parse? "\x7b\"error\":\"slow\",\"peer\":\"\\ud800\"\x7d" =
      some (.object [(some "error", .string (some "slow")), (some "peer", .string none)]) := by cbv
  have tells : Tells "\x7b\"error\":\"slow\"\x7d" "slow" :=
    (tells_iff parsed).mpr ⟨⟨by simp, by decide, by simp⟩, (parse?_eq_value? parsed).trans_ne (Option.some_ne_none _)⟩
  have mistaken : IsMistaken "\x7b\"error\":\"slow\",\"peer\":\"\\ud800\"\x7d" "slow" :=
    .invalid loose ⟨by simp, by decide, by simp⟩ ((parse?_eq_value? loose).trans rfl)
  exact ⟨tells, (message_of_body 504 _).2.1 "slow" tells, mistaken, ((message_of_body 504 _).2.2 "slow" mistaken).1⟩

/-- A list of a text is no error that the interface documents, and should be shown as it is. -/
theorem list_taken_for_error : (ofResponse 500 "[\"boom\"]").message = "boom" ∧
    Documented 500 "[\"boom\"]" "[\"boom\"]" ∧
      ¬ Documented 500 "[\"boom\"]" (ofResponse 500 "[\"boom\"]").message := by
  have listed : IsMistaken "[\"boom\"]" "boom" := .listed (by cbv)
  have shown : (ofResponse 500 "[\"boom\"]").message = "boom" := by
    rw [message_ofResponse, errorText?_eq_some_iff.mpr (.inr listed), Option.getD_some]
  have bare : Text.trim "[\"boom\"]" = "[\"boom\"]" := by cbv
  have documented : Documented 500 "[\"boom\"]" "[\"boom\"]" := by
    have whole : Documented 500 "[\"boom\"]" (Text.trim "[\"boom\"]") := listed.documented
    rwa [bare] at whole
  refine ⟨shown, documented, fun claimed => ?_⟩
  have same := claimed.unique documented
  rw [shown] at same
  exact absurd same (by decide)

end ProxyWatch.Api.RequestError
