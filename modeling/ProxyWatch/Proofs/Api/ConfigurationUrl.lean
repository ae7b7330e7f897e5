import ProxyWatch.Health.Probe
import ProxyWatch.Proofs.Api.Resources
import ProxyWatch.Proofs.Url.Continuation

/-! The three urls of the configuration.

The general call goes on from the text of the base, the others from the segments of its path; only the
probe leaves out query and fragment. -/
namespace ProxyWatch.Api
open Url

variable {path words : List String} {base : Url} {client : Client} {endpoint : String}

theorem Client.isNormal_of_forEndpoint [Url.Idna] (known : Client.forEndpoint endpoint = .ok client) :
    Url.parse endpoint = .ok client.base ∧ ∃ path, IsNormal client.base path := by
  unfold Client.forEndpoint at known
  split at known
  · cases known
  · rename_i base read
    split at known
    · rename_i isBase
      cases known
      exact ⟨read, isNormal_of_parse read isBase⟩
    · cases known

theorem isWord_config : ∀ word ∈ ["config"], IsWord word := by decide

private theorem pathUrl_words [Url.Idna] (known : IsNormal client.base path) (all : ∀ word ∈ words, IsWord word) :
    client.pathUrl (String.ofList (pathChars words)) = .ok (continued client.base path ("api" :: words)) := by
  have isWord : ∀ word ∈ "api" :: words, IsWord word := List.forall_mem_cons.mpr ⟨isWord_api, all⟩
  have text : String.ofList (Client.stripSlashes client.base.toText.toList) ++ "/api" ++
      String.ofList (pathChars words) =
        String.ofList (Client.stripSlashes client.base.toText.toList ++ pathChars ("api" :: words)) := by
    rw [← String.toList_inj]
    simp [pathChars]
  rw [Client.pathUrl, text, known.parse_continued (List.cons_ne_nil "api" words) isWord]
  rfl

theorem probeRequest_url (based : base.path = .segments path) : (Health.probeRequest base).url =
    { base with path := .segments (stem path ++ ["api", "config"]), query := none, fragment := none } := by
  have added := foldl_addSegment_words (isSpecial base.scheme) path isWord_api isWord_config
  simp only [Health.probeRequest, withoutQuery, extend?, based, added, Option.getD_some]

theorem Call.configuration_requests [Url.Idna] (known : IsNormal client.base path) :
    ∃ general convenient, (Call.request .get "/config" none).toRequest client = .ok general ∧
      Call.getConfig.toRequest client = .ok convenient ∧
      general.url = continued client.base path ["api", "config"] ∧
      convenient.url = { client.base with path := .segments (stem path ++ ["api", "config"]) } := by
  have general := pathUrl_words known isWord_config
  rw [show String.ofList (pathChars ["config"]) = "/config" by decide +kernel] at general
  have convenient := segmentsUrl_words known.based isWord_config
  exact ⟨_, _, by simp only [toRequest, general]; rfl, by simp only [toRequest, convenient]; rfl, rfl, rfl⟩

/-- The text and the segments of a url go on in the same way if its path ends in one slash at most and it
is not bare. -/
theorem continued_eq_iff (asked : base.query = none) (named : base.fragment = none) :
    continued base path words = { base with path := .segments (stem path ++ words) } ↔
      (stem path).getLast? ≠ some "" ∧ ¬ (IsBare base ∧ stem path = []) := by
  simp only [continued, named, asked]
  by_cases bare : IsBare base ∧ trunk path = []
  · rw [if_pos bare]
    constructor
    · intro same
      have authority : false = base.authority := congrArg Url.authority same
      exact absurd (authority.trans bare.1.1) (by decide)
    · rintro ⟨single, other⟩
      exact absurd ⟨bare.1, (trunk_eq_stem_iff.mpr single).symm.trans bare.2⟩ other
  · rw [if_neg bare, ← trunk_eq_stem_iff]
    constructor
    · intro same
      have paths : Url.Path.segments (trunk path ++ words) = .segments (stem path ++ words) := congrArg Url.path same
      have trunk_ : trunk path = stem path := List.append_cancel_right (Url.Path.segments.inj paths)
      exact ⟨trunk_, trunk_ ▸ bare⟩
    · rintro ⟨same, -⟩
      rw [same]

/-- Where the configuration is asked for, whatever the endpoint. The general call goes on from the text of the
base, be it in its fragment, in its query or behind the last segment that is not empty; the convenient call and
the probe go on from all segments but an empty one at the end, and only the probe leaves out query and fragment.
They agree if there is neither, nor a second slash at the end, nor an authority without a host that only
slashes follow. -/
theorem Call.configuration_urls [Url.Idna] (known : Client.forEndpoint endpoint = .ok client) :
    Url.parse endpoint = .ok client.base ∧
      ∃ path general convenient, client.base.path = .segments path ∧
        (Call.request .get "/config" none).toRequest client = .ok general ∧
        Call.getConfig.toRequest client = .ok convenient ∧
        general.url = continued client.base path ["api", "config"] ∧
        convenient.url = { client.base with path := .segments (stem path ++ ["api", "config"]) } ∧
        (Health.probeRequest client.base).url = { convenient.url with query := none, fragment := none } ∧
        (convenient.url = (Health.probeRequest client.base).url ↔
          client.base.query = none ∧ client.base.fragment = none) ∧
        (general.url = convenient.url ∧ convenient.url = (Health.probeRequest client.base).url ↔
          client.base.query = none ∧ client.base.fragment = none ∧ (stem path).getLast? ≠ some "" ∧
            ¬ (IsBare client.base ∧ stem path = [])) := by
  obtain ⟨read, path, normal⟩ := Client.isNormal_of_forEndpoint known
  obtain ⟨general, convenient, called, fetched, general_, convenient_⟩ := Call.configuration_requests normal
  have probed := probeRequest_url normal.based
  have same : convenient.url = (Health.probeRequest client.base).url ↔
      client.base.query = none ∧ client.base.fragment = none := by
    rw [convenient_, probed]
    constructor
    · intro same
      exact ⟨congrArg Url.query same, congrArg Url.fragment same⟩
    · rintro ⟨asked, named⟩
      dsimp only
      rw [asked, named]
  refine ⟨read, path, general, convenient, normal.based, called, fetched, general_, convenient_, ?_, same, ?_⟩
  · rw [probed, convenient_]
  · rw [same]
    constructor
    · rintro ⟨agreed, asked, named⟩
      rw [general_, convenient_] at agreed
      exact ⟨asked, named, (continued_eq_iff asked named).mp agreed⟩
    · rintro ⟨asked, named, shape⟩
      rw [general_, convenient_]
      exact ⟨(continued_eq_iff asked named).mpr shape, asked, named⟩

/-- One slash at the end of an endpoint makes no difference. -/
theorem Call.configuration_urls_below_path : ∃ client, Client.forEndpoint "http://h/base/" = .ok client ∧
    ∃ general convenient, (Call.request .get "/config" none).toRequest client = .ok general ∧
      Call.getConfig.toRequest client = .ok convenient ∧ general.url = convenient.url ∧
      convenient.url = (Health.probeRequest client.base).url ∧ convenient.url.target = "/base/api/config" := by
  obtain ⟨-, path, general, convenient, based, called, fetched, -, url, -, -, agree⟩ :=
    Call.configuration_urls Client.sample_eq
  cases based
  obtain ⟨same, probed⟩ := agree.mpr ⟨rfl, rfl, by decide, by decide⟩
  exact ⟨_, Client.sample_eq, general, convenient, called, fetched, same, probed, by rw [url]; decide⟩

/-- The url of `http://h/?x=1`. -/
def Client.asking : Client :=
  ⟨{ scheme := "http", authority := true, host := some (.domain "h"), path := .segments [""], query := some "x=1" }⟩

/-- The query of an endpoint takes in the general call's path, stays behind the convenient call's, and is left out
by the probe. -/
theorem Call.query_parts_configuration_urls : ∃ client, Client.forEndpoint "http://h/?x=1" = .ok client ∧
    ∃ general convenient, (Call.request .get "/config" none).toRequest client = .ok general ∧
      Call.getConfig.toRequest client = .ok convenient ∧ general.url.target = "/?x=1/api/config" ∧
      convenient.url.target = "/api/config?x=1" ∧ (Health.probeRequest client.base).url.target = "/api/config" := by
  have known : Client.forEndpoint "http://h/?x=1" = .ok Client.asking :=
    Client.forEndpoint_of_parse? (by decide +kernel) rfl
  obtain ⟨-, path, normal⟩ := Client.isNormal_of_forEndpoint known
  obtain ⟨general, convenient, called, fetched, general_, convenient_⟩ := Call.configuration_requests normal
  obtain rfl : [""] = path := Url.Path.segments.inj normal.based
  refine ⟨_, known, general, convenient, called, fetched, ?_, ?_, ?_⟩
  · rw [general_]
    decide +kernel
  · rw [convenient_]
    decide +kernel
  · rw [probeRequest_url normal.based]
    decide +kernel

end ProxyWatch.Api
