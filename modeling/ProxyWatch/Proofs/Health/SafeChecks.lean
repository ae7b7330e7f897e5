import ProxyWatch.Health.Check
import ProxyWatch.Health.Poller
import ProxyWatch.Proofs.Data.Gathered

/-! Checks whose probes do not die, and the sets of endpoints that they are made of. -/
namespace ProxyWatch.Health
variable {hosts : Hosts} {urls other : List String}

namespace Poller

theorem mem_keyOf : url ∈ keyOf urls ↔ url ∈ urls := by
  rw [keyOf, Dictionary.mem_keys_ofList]
  simp

theorem keyOf_ascends (urls : List String) : (keyOf urls).Pairwise (· < ·) :=
  List.pairwise_map.mpr (Dictionary.isOrdered_ofList _)

theorem keyOf_nodup (urls : List String) : (keyOf urls).Nodup := by
  refine (keyOf_ascends urls).imp ?_
  rintro first _ before rfl
  exact String.lt_irrefl first before

/-- Neither the order of the endpoints nor repetition counts. -/
theorem keyOf_eq_iff : keyOf urls = keyOf other ↔ ∀ url, url ∈ urls ↔ url ∈ other := by
  constructor
  · intro same url
    rw [← mem_keyOf, same, mem_keyOf]
  · intro same
    refine List.Perm.eq_of_pairwise ?_ (keyOf_ascends urls) (keyOf_ascends other) ?_
    · exact fun first second _ _ before after => absurd after (String.lt_asymm before)
    · rw [List.perm_ext_iff_of_nodup (keyOf_nodup urls) (keyOf_nodup other)]
      intro url
      rw [mem_keyOf, mem_keyOf, same]

end Poller

/-- No probe dies. -/
def Hosts.IsSafe (hosts : Hosts) : Prop := ∀ url delay, hosts.behaviour url ≠ .crashes delay

/-- What a check of some texts finds: for every one that is a url, whether it answers in time. -/
def findings [Url.Idna] (hosts : Hosts) (timeout : Nat) (texts : List String) : Dictionary Bool :=
  .ofList ((wellFormed texts).map fun (text, url) => (text, (hosts.behaviour url).isOnline timeout))

theorem mem_probing [Url.Idna] {calls : List (String × Behaviour)} {call : String × Behaviour} :
    call ∈ probing calls ↔ call ∈ calls ∧ ∃ url, Url.parse? call.1 = some url := by
  rw [probing, List.mem_filter, Option.isSome_iff_exists]

theorem probing_probes [Url.Idna] (hosts : Hosts) (texts : List String) :
    probing (hosts.probes texts) = (wellFormed texts).map fun (text, url) => (text, hosts.behaviour url) := by
  induction texts with
  | nil => rfl
  | cons text rest ih =>
    unfold probing Hosts.probes wellFormed at *
    cases read : Url.parse? text with
    | none => simpa [List.filterMap_cons, read] using ih
    | some url => simpa [List.filterMap_cons, read] using ih

private theorem begun_of_living {timeout : Nat} {probes : List (String × Behaviour)}
    (alive : ∀ probe ∈ probes, probe.2.crash? timeout = none) : begun timeout probes = probes := by
  induction probes with
  | nil => rfl
  | cons probe rest ih =>
    have living := alive probe List.mem_cons_self
    rw [begun, living, if_neg (by simp), ih fun other member => alive other (List.mem_cons_of_mem _ member)]

/-- A check of which no probe dies. -/
theorem checkAll_of_living [Url.Idna] {timeout : Nat} {calls : List (String × Behaviour)}
    (alive : ∀ call ∈ probing calls, call.2.crash? timeout = none) :
    checkAll timeout calls = {
      probed := (probing calls).filterMap fun call => Url.parse? call.1
      duration := (((probing calls).map fun call => call.2.duration timeout).max?).getD 0
      result := some (.ofList ((probing calls).map fun call => (call.1, call.2.isOnline timeout))) } := by
  have deathless : (probing calls).filterMap (·.2.crash? timeout) = [] := List.filterMap_eq_nil_iff.mpr alive
  simp only [checkAll, begun_of_living alive, deathless, List.min?_nil]

theorem Hosts.IsSafe.crash? (safe : hosts.IsSafe) (url : Url) (timeout : Nat) :
    (hosts.behaviour url).crash? timeout = none := by
  cases found : hosts.behaviour url with
  | answers delay isOnline | hangs => rfl
  | crashes delay => exact absurd found (safe url delay)

/-- A check whose probes do not die probes every text that is a url, and has a result. -/
theorem checkAll_of_safe [Url.Idna] (safe : hosts.IsSafe) (timeout : Nat) (texts : List String) :
    (checkAll timeout (hosts.probes texts)).probed = texts.filterMap Url.parse? ∧
      (checkAll timeout (hosts.probes texts)).result = some (findings hosts timeout texts) := by
  have alive : ∀ call ∈ probing (hosts.probes texts), call.2.crash? timeout = none := by
    rw [probing_probes]
    intro call member
    obtain ⟨⟨text, url⟩, -, rfl⟩ := List.mem_map.mp member
    exact safe.crash? url timeout
  rw [checkAll_of_living alive, probing_probes]
  constructor
  · simp only [wellFormed, List.filterMap_map, List.filterMap_filterMap]
    congr 1
    funext text
    cases read : Url.parse? text with
    | none => rfl
    | some url => exact read
  · simp only [findings, List.map_map]
    rfl

end ProxyWatch.Health
