import ProxyWatch.Proofs.Url.Segments
import ProxyWatch.Api.Client
import ProxyWatch.Proofs.Url.Domains

/-! Which resource a call on a single item addresses.

Every such call makes a request below the base's own path. An argument has a segment of its own unless it
is a dot or two, or has tabs or line breaks. -/
namespace ProxyWatch.Api
open Url

/-- The route and the argument of a call on a single item. -/
def Call.item? : Call → Option (String × String)
  | .select net _ => some ("select", net)
  | .closeConnection id => some ("conn", id)
  | .getDelay net _ _ => some ("delay", net)
  | .getUserData key | .putUserData key _ | .deleteUserData key => some ("userdata", key)
  | _ => none

/-- A segment from which a text is read back, and that ends neither itself nor the path. -/
def Writes (segment : String) (text : List Char) : Prop :=
  Utf8.decode? (percentDecode segment.toList) = some text ∧ ∀ c ∈ segment.toList, c ≠ '/' ∧ c ≠ '?' ∧ c ≠ '#'

/-- An argument that does not stand for a place and that is put on a path as a whole. -/
def IsAddressable (argument : String) : Prop :=
  argument ≠ "." ∧ argument ≠ ".." ∧ ∀ c ∈ argument.toList, c ≠ '\t' ∧ c ≠ '\n' ∧ c ≠ '\r'

instance (argument : String) : Decidable (IsAddressable argument) :=
  inferInstanceAs (Decidable (_ ∧ _ ∧ ∀ c ∈ argument.toList, _))

variable {endpoint route argument : String} {url : Url} {client : Client} {call : Call} {path : List String}

private theorem Client.base_of_forEndpoint [Url.Idna] (known : Client.forEndpoint endpoint = .ok client) :
    ∃ path, client.base.path = .segments path := by
  unfold Client.forEndpoint at known
  split at known
  · cases known
  · split at known
    · rename_i isBase
      cases known
      unfold Url.isBase at isBase
      split at isBase
      · exact ⟨_, ‹_›⟩
      · cases isBase
    · cases known

theorem Client.forEndpoint_of_parse? [Url.Idna] (read : Url.parse? endpoint = some url) (isBase : url.isBase = true) :
    Client.forEndpoint endpoint = .ok ⟨url⟩ := by
  unfold Url.parse? at read
  cases parsed : Url.parse endpoint with
  | error error => simp [parsed, Except.toOption] at read
  | ok base =>
    rw [parsed] at read
    cases read
    simp [Client.forEndpoint, parsed, isBase]

theorem Writes.percentEncode (special : Bool) (text : List Char) :
    Writes (String.ofList (percentEncode (segmentSet special) text)) text := by
  refine ⟨?_, fun c member => ne_of_mem_segment (by simpa using member)⟩
  rw [String.toList_ofList]
  exact decode?_percentEncode (percent_mem_segmentSet special) text

/-- Only one text is read back from a segment. -/
theorem Writes.unique {segment : String} {text other : List Char} (first : Writes segment text)
    (second : Writes segment other) : text = other :=
  Option.some.inj (first.1.symm.trans second.1)

/-- What the argument of a call becomes below the route. -/
def resource (special : Bool) (route argument : String) : List String :=
  if argument = "." ∨ argument = ".." then [route]
  else if kept argument = ['.', '.'] then [""]
  else if kept argument = ['.'] then [route, ""]
  else [route, String.ofList (percentEncode (segmentSet special) (kept argument))]

theorem isWord_api : IsWord "api" := by decide

theorem segmentsUrl_words {words : List String} (based : client.base.path = .segments path)
    (all : ∀ word ∈ words, IsWord word) :
    client.segmentsUrl words = .ok { client.base with path := .segments (stem path ++ "api" :: words) } := by
  rw [Client.segmentsUrl, extend?, based]
  simp only [foldl_addSegment_words _ path isWord_api all]

theorem segmentsUrl_item (based : client.base.path = .segments path) (word : IsWord route) :
    client.segmentsUrl [route, argument] = .ok { client.base with
      path := .segments (stem path ++ "api" :: resource (isSpecial client.base.scheme) route argument) } := by
  have front := foldl_addSegment_words (isSpecial client.base.scheme) path isWord_api
    (List.forall_mem_singleton.mpr word)
  have other : stem path ++ ["api", route] ≠ [""] := by simp [List.append_eq_singleton_iff]
  have added : ["api", route, argument].foldl (addSegment (isSpecial client.base.scheme)) (dropEmptyLast path) =
      stem path ++ "api" :: resource (isSpecial client.base.scheme) route argument := by
    rw [show ["api", route, argument] = ["api", route] ++ [argument] from rfl, List.foldl_append, front,
      List.foldl_cons, List.foldl_nil, addSegment_eq other, resource]
    by_cases dots : argument = "." ∨ argument = ".."
    · rw [if_pos dots, if_pos dots]
    by_cases double : kept argument = ['.', '.']
    · simp [dots, double]
    by_cases single : kept argument = ['.']
    · simp [dots, single]
    · simp [dots, double, single]
  rw [Client.segmentsUrl, extend?, based]
  simp only [added]

theorem Call.toRequest_item [Url.Idna] (based : client.base.path = .segments path)
    (item : call.item? = some (route, argument)) :
    ∃ request, call.toRequest client = .ok request ∧ request.url = { client.base with
      path := .segments (stem path ++ "api" :: resource (isSpecial client.base.scheme) route argument)
      query := request.url.query } := by
  cases call <;> cases item
  case getDelay timeout =>
    refine ⟨_, by simp only [toRequest]; rw [segmentsUrl_item based (by decide)]; rfl, ?_⟩
    cases timeout <;> rfl
  all_goals exact ⟨_, by simp only [toRequest]; rw [segmentsUrl_item based (by decide)]; rfl, rfl⟩

section Resources
variable {special : Bool}

/-- An argument that does not stand for a place, even without its tabs and line breaks, is put on as a segment. -/
theorem resource_of_kept (single : kept argument ≠ ['.']) (double : kept argument ≠ ['.', '.']) :
    resource special route argument =
      [route, String.ofList (percentEncode (segmentSet special) (kept argument))] := by
  rw [resource, if_neg, if_neg double, if_neg single]
  rintro (rfl | rfl)
  · exact single (by decide)
  · exact double (by decide)

/-- A dot that becomes one only without its tabs and line breaks leaves an empty segment. -/
theorem resource_of_dot (other : argument ≠ ".") (single : kept argument = ['.']) :
    resource special route argument = [route, ""] := by
  rw [resource, if_neg, if_neg (by simp [single]), if_pos single]
  rintro (rfl | rfl)
  · exact other rfl
  · exact absurd single (by decide)

/-- Two such dots take the route away. -/
theorem resource_of_dots (other : argument ≠ "..") (double : kept argument = ['.', '.']) :
    resource special route argument = [""] := by
  rw [resource, if_neg, if_pos double]
  rintro (rfl | rfl)
  · exact absurd double (by decide)
  · exact other rfl

private theorem kept_of_isAddressable (addressable : IsAddressable argument) : kept argument = argument.toList :=
  kept_eq_iff.mpr addressable.2.2

theorem resource_of_isAddressable (addressable : IsAddressable argument) :
    resource special route argument =
      [route, String.ofList (percentEncode (segmentSet special) argument.toList)] := by
  have whole := kept_of_isAddressable addressable
  have other (dots : String) (different : argument ≠ dots) : kept argument ≠ dots.toList := by
    rw [whole]
    exact fun same => different (String.toList_inj.mp same)
  obtain ⟨single, double, -⟩ := addressable
  rw [resource_of_kept (other "." single) (other ".." double), whole]

/-- Addressable arguments do not share a resource, nor do routes. -/
theorem item_of_resource {route' argument' : String} (addressable : IsAddressable argument)
    (addressable' : IsAddressable argument')
    (same : resource special route argument = resource special route' argument') :
    (route, argument) = (route', argument') := by
  rw [resource_of_isAddressable addressable, resource_of_isAddressable addressable'] at same
  obtain ⟨rfl, segment⟩ : route = route' ∧ String.ofList (percentEncode (segmentSet special) argument.toList) =
      String.ofList (percentEncode (segmentSet special) argument'.toList) := by
    simpa using same
  have written := Writes.percentEncode special argument.toList
  rw [segment] at written
  rw [String.toList_inj.mp (written.unique (Writes.percentEncode _ _))]

private theorem isAddressable_of_resource {segment : String} (same : resource special route argument = [route, segment])
    (written : Writes segment argument.toList) : IsAddressable argument := by
  unfold resource at same
  split at same
  · cases same
  · rename_i dots
    split at same
    · cases same
    · split at same
      · rename_i single
        cases same
        have empty : argument.toList = [] := written.unique ⟨rfl, nofun⟩
        rw [kept, empty] at single
        cases single
      · cases same
        have whole : kept argument = argument.toList := (Writes.percentEncode _ _).unique written
        exact ⟨fun dot => dots (.inl dot), fun two => dots (.inr two), kept_eq_iff.mp whole⟩

end Resources

/-- Where a call on a single item goes, whatever the client's base and the argument. Its path goes on from
the base's own segments with the api's segment, and then with the route and one more segment, from which the
argument is read back, exactly if the argument is addressable. Other arguments lose the characters that make
them so, and what stands for a place then addresses the collection, or another route. Calls with different
addressable arguments, or on different routes, never address the same resource. -/
theorem Call.resource_of_item [Url.Idna] (known : Client.forEndpoint endpoint = .ok client) :
    ∃ path, client.base.path = .segments path ∧
      (∀ call route argument, Call.item? call = some (route, argument) → ∃ request segments,
        call.toRequest client = .ok request ∧
        request.url = { client.base with
          path := .segments (stem path ++ "api" :: segments), query := request.url.query } ∧
        ((∃ segment, segments = [route, segment] ∧ Writes segment argument.toList) ↔ IsAddressable argument) ∧
        (argument = "." ∨ argument = ".." → segments = [route]) ∧
        (argument ≠ "." → kept argument = ['.'] → segments = [route, ""]) ∧
        (argument ≠ ".." → kept argument = ['.', '.'] → segments = [""]) ∧
        (kept argument ≠ ['.'] → kept argument ≠ ['.', '.'] →
          ∃ segment, segments = [route, segment] ∧ Writes segment (kept argument))) ∧
      ∀ one other item another first second, Call.item? one = some item → Call.item? other = some another →
        IsAddressable item.2 → IsAddressable another.2 →
        one.toRequest client = .ok first → other.toRequest client = .ok second →
        first.url.path = second.url.path → item = another := by
  obtain ⟨path, based⟩ := Client.base_of_forEndpoint known
  refine ⟨path, based, ?_, ?_⟩
  · intro call route argument item
    obtain ⟨request, made, url⟩ := Call.toRequest_item based item
    refine ⟨request, _, made, url, ⟨?_, ?_⟩, fun dots => if_pos dots, resource_of_dot, resource_of_dots,
      fun single double => ?_⟩
    · rintro ⟨segment, same, written⟩
      exact isAddressable_of_resource same written
    · intro addressable
      exact ⟨_, resource_of_isAddressable addressable, Writes.percentEncode _ _⟩
    · exact ⟨_, resource_of_kept single double, Writes.percentEncode _ _⟩
  · rintro one other ⟨route, argument⟩ ⟨route', argument'⟩ first second item another addressable addressable'
      made made' same
    obtain ⟨request, made_, url⟩ := Call.toRequest_item based item
    obtain ⟨request', made_', url'⟩ := Call.toRequest_item based another
    cases made.symm.trans made_
    cases made'.symm.trans made_'
    rw [url, url'] at same
    exact item_of_resource addressable addressable' (by simpa using same)

/-- The url of `http://h/base/`. -/
def Client.sample : Client :=
  ⟨{ scheme := "http", authority := true, host := some (.domain "h"), path := .segments ["base", ""] }⟩

theorem Client.sample_eq : Client.forEndpoint "http://h/base/" = .ok Client.sample :=
  Client.forEndpoint_of_parse? (by decide +kernel) rfl

/-- Slashes, dots and percent signs of a name stay within its segment. -/
theorem Call.resource_of_item_marks :
    ∃ client, Client.forEndpoint "http://h/base/" = .ok client ∧ ∃ request segment,
      (Call.select "a/../%2e" "b").toRequest client = .ok request ∧
      request.url.path = .segments ["base", "api", "select", segment] ∧ Writes segment "a/../%2e".toList := by
  obtain ⟨path, based, single, -⟩ := Call.resource_of_item Client.sample_eq
  obtain ⟨request, segments, made, url, addressed, -⟩ := single (.select "a/../%2e" "b") "select" "a/../%2e" rfl
  obtain ⟨segment, rfl, written⟩ := addressed.mpr (by decide)
  cases based
  exact ⟨_, Client.sample_eq, request, segment, made, by rw [url]; rfl, written⟩

/-- A dot reads the list of keys for the data of one, two dots remove it, and names that differ in a tab
are one. -/
theorem Call.dots_address_collection :
    ∃ client, Client.forEndpoint "http://h/base/" = .ok client ∧
      (Call.getUserData ".").toRequest client = Call.listUserData.toRequest client ∧
      (∃ one other, (Call.deleteUserData "..").toRequest client = .ok one ∧
        Call.listUserData.toRequest client = .ok other ∧ one.url = other.url) ∧
      (Call.closeConnection "a\tb").toRequest client = (Call.closeConnection "ab").toRequest client := by
  have placed (argument : String) (dots : argument = "." ∨ argument = "..") :
      Client.sample.segmentsUrl ["userdata", argument] = Client.sample.segmentsUrl ["userdata"] := by
    rw [segmentsUrl_item rfl (by decide), segmentsUrl_words rfl (by decide), resource, if_pos dots]
  have tabbed : Client.sample.segmentsUrl ["conn", "a\tb"] = Client.sample.segmentsUrl ["conn", "ab"] := by
    rw [segmentsUrl_item rfl (by decide), segmentsUrl_item rfl (by decide)]
    rfl
  refine ⟨_, Client.sample_eq, ?_, ⟨_, _, rfl, rfl, ?_⟩, ?_⟩
  · simp only [toRequest, placed "." (.inl rfl)]
  · rfl
  · simp only [toRequest, tabbed]

end ProxyWatch.Api
