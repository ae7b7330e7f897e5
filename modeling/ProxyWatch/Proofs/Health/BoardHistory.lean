import ProxyWatch.Proofs.Health.History

/-! The board of a poller, told from the results that were applied.

The statuses are the result applied last. A url flips when two results that were applied one after the
other both have it, with different values. What is kept of the flips of a url is the latest, while it
is younger than the window at the time the last result was applied. -/
namespace ProxyWatch.Health

def lastResult (applied : List Applied) : Dictionary Bool :=
  (applied.head?.map (·.result)).getD []

def lastTime (applied : List Applied) : Nat := (applied.head?.map (·.time)).getD 0

/-- The status before a flip of a url. -/
def flip? (url : String) (before after : Dictionary Bool) : Option Bool :=
  match before.get? url, after.get? url with
  | some previous, some isOnline => if previous = isOnline then none else some previous
  | _, _ => none

/-- The latest flip of a url among results that were applied, latest first. -/
def latestFlip? (url : String) : List Applied → Option Transition
  | [] => none
  | batch :: earlier =>
    match flip? url (lastResult earlier) batch.result with
    | some previous => some ⟨previous, batch.time⟩
    | none => latestFlip? url earlier

theorem flip?_eq_some_iff :
    flip? url before after = some previous ↔
      before.get? url = some previous ∧ after.get? url = some !previous := by
  unfold flip?
  split
  · rename_i old new foundOld foundNew
    rw [foundOld, foundNew]
    cases old <;> cases new <;> cases previous <;> simp
  · rename_i absent
    constructor
    · intro found
      cases found
    · intro ⟨foundOld, foundNew⟩
      exact (absent _ _ foundOld foundNew).elim

namespace Poller
variable {poller : Poller} {statuses result : Dictionary Bool} {change : Change}
  {flipped : List Change} {url : String} {id : Nat}

/-- A result brings exactly the changes of the urls that flip. -/
theorem mem_flips_iff (distinct : result.IsDistinct) :
    change ∈ flips statuses result ↔
      statuses.get? change.url = some (!change.isOnline) ∧
        result.get? change.url = some change.isOnline := by
  rw [← Dictionary.mem_iff_get? distinct, flips, List.mem_filterMap]
  constructor
  · intro ⟨⟨url, isOnline⟩, member, flipped⟩
    simp only at flipped
    split at flipped
    · rename_i previous found
      split at flipped
      · cases flipped
      · rename_i different
        cases flipped
        refine ⟨?_, member⟩
        rw [found]
        cases previous <;> cases isOnline <;> simp_all
    · cases flipped
  · intro ⟨found, member⟩
    refine ⟨(change.url, change.isOnline), member, ?_⟩
    simp [found]

theorem flips_distinct (distinct : result.IsDistinct) :
    (flips statuses result).Pairwise (·.url ≠ ·.url) := by
  refine List.Pairwise.filterMap _ ?_ distinct
  intro first second different change fromFirst other fromSecond
  have firstUrl : change.url = first.1 := by
    grind
  have secondUrl : other.url = second.1 := by
    grind
  rw [firstUrl, secondUrl]
  exact different

/-- A table of transitions after some changes. -/
def recorded (transitions : Dictionary Transition) (now : Nat) (flipped : List Change) :
    Dictionary Transition :=
  flipped.foldl (fun table change => Dictionary.insert table change.url ⟨!change.isOnline, now⟩)
    transitions

theorem isOrdered_recorded {transitions : Dictionary Transition} (ordered : transitions.IsOrdered)
    (now : Nat) (flipped : List Change) : (recorded transitions now flipped).IsOrdered := by
  induction flipped generalizing transitions with
  | nil => exact ordered
  | cons change rest ih => exact ih (Dictionary.isOrdered_insert ordered _ _)

theorem get?_recorded_unchanged (transitions : Dictionary Transition) (now : Nat)
    (unchanged : ∀ change ∈ flipped, change.url ≠ url) :
    (recorded transitions now flipped).get? url = transitions.get? url := by
  induction flipped generalizing transitions with
  | nil => rfl
  | cons change rest ih =>
    refine (ih _ fun other member => unchanged other (List.mem_cons_of_mem _ member)).trans ?_
    rw [Dictionary.get?_insert, if_neg (unchanged change List.mem_cons_self)]

theorem get?_recorded_changed (transitions : Dictionary Transition) (now : Nat)
    (distinct : flipped.Pairwise (·.url ≠ ·.url))
    (member : change ∈ flipped) :
    (recorded transitions now flipped).get? change.url = some ⟨!change.isOnline, now⟩ := by
  induction flipped generalizing transitions with
  | nil => cases member
  | cons head rest ih =>
    obtain ⟨unique, rest_distinct⟩ := List.pairwise_cons.mp distinct
    rcases List.mem_cons.mp member with rfl | later
    · have kept := get?_recorded_unchanged
        (transitions.insert change.url ⟨!change.isOnline, now⟩) now
        fun other member => (unique other member).symm
      refine kept.trans ?_
      rw [Dictionary.get?_insert, if_pos rfl]
    · exact ih _ rest_distinct later

theorem get?_recorded_flips (distinct : result.IsDistinct) (transitions : Dictionary Transition)
    (now : Nat) (url : String) :
    (recorded transitions now (flips statuses result)).get? url =
      match flip? url statuses result with
      | some previous => some ⟨previous, now⟩
      | none => transitions.get? url := by
  cases found : flip? url statuses result with
  | some previous =>
    obtain ⟨foundOld, foundNew⟩ := flip?_eq_some_iff.mp found
    have member : Change.mk url (!previous) ∈ flips statuses result := by
      rw [mem_flips_iff distinct]
      simp [foundOld, foundNew]
    simpa using get?_recorded_changed transitions now (flips_distinct distinct) member
  | none =>
    refine get?_recorded_unchanged transitions now ?_
    intro change member same
    obtain ⟨foundOld, foundNew⟩ := (mem_flips_iff distinct).mp member
    have flips := flip?_eq_some_iff.mpr ⟨same ▸ foundOld, by simpa using same ▸ foundNew⟩
    rw [found] at flips
    cases flips

theorem complete_of_newest (newest : poller.nextId = id + 1) (result : Dictionary Bool) (now : Nat) :
    (poller.complete id result now).statuses = result ∧
      (poller.complete id result now).transitions =
        (recorded poller.transitions now (flips poller.statuses result)).filter
          (fun (_, transition) => transition.isRecent now poller.timing.transitionWindow) ∧
      (poller.complete id result now).changes =
        (flips poller.statuses result).reverse ++ poller.changes := by
  simp [complete, newest, recorded]

end Poller

namespace History
variable {history next : History} {applied : List Applied} {reading : Nat}

/-- The board of a history is what the applied results say. -/
structure Reports (history : History) : Prop where
  statuses : history.poller.statuses = lastResult history.applied
  ordered : history.poller.transitions.IsOrdered
  transitions : ∀ url transition, history.poller.transitions.get? url = some transition ↔
    latestFlip? url history.applied = some transition ∧
      lastTime history.applied - transition.time < history.poller.timing.transitionWindow

private theorem reports_start (timing : Timing) : (start timing).Reports where
  statuses := rfl
  ordered := Dictionary.isOrdered_nil
  transitions url transition := by simp [start, Dictionary.get?, latestFlip?]

private theorem lastTime_le (latest : ∀ batch ∈ applied, batch.time ≤ reading) : lastTime applied ≤ reading := by
  cases applied with
  | nil => exact Nat.zero_le _
  | cons batch earlier => exact latest batch List.mem_cons_self

theorem Reports.outcome (reports : history.Reports) (outcome : Outcome history next) : next.Reports := by
  cases outcome with
  | quiet statuses transitions changes timing applied =>
    constructor
    · rw [statuses, applied]
      exact reports.statuses
    · rw [transitions]
      exact reports.ordered
    · rw [transitions, applied, timing]
      exact reports.transitions
  | applied findings id reading newest latest poller applied =>
    obtain ⟨statuses, transitions, -⟩ := Poller.complete_of_newest newest findings.entries reading
    have ordered := Poller.isOrdered_recorded reports.ordered reading
      (Poller.flips history.poller.statuses findings.entries)
    constructor
    · rw [poller, applied, statuses]
      rfl
    · rw [poller, transitions]
      exact Dictionary.isOrdered_filter ordered _
    · intro url transition
      rw [poller, Poller.complete_timing, transitions, applied, Dictionary.get?_filter_iff ordered.isDistinct,
        Poller.get?_recorded_flips findings.distinct, reports.statuses]
      simp only [latestFlip?, Transition.isRecent, decide_eq_true_eq]
      cases flip? url (lastResult history.applied) findings.entries with
      | some previous => exact Iff.rfl
      | none =>
        -- a flip too old when the last result was applied is not young now
        have later := lastTime_le latest
        simp only [reports.transitions url transition]
        constructor
        · intro ⟨⟨found, _⟩, young⟩
          exact ⟨found, young⟩
        · intro ⟨found, young⟩
          refine ⟨⟨found, ?_⟩, young⟩
          simp only [lastTime, List.head?_cons, Option.map_some, Option.getD_some] at young
          omega

private theorem timing_outcome (outcome : Outcome history next) :
    next.poller.timing = history.poller.timing := by
  cases outcome with
  | quiet statuses transitions changes timing applied => exact timing
  | applied findings id reading newest latest poller applied =>
    rw [poller, Poller.complete_timing]

theorem follow_reports (timing : Timing) (occurrences : List Occurrence) :
    ((start timing).follow occurrences).Reports ∧
      ((start timing).follow occurrences).poller.timing = timing := by
  have invariant := follow_invariant
    (fun history => history.IsTimely ∧ history.Reports ∧ history.poller.timing = timing)
    (fun history occurrence ⟨timely, reports, same⟩ => by
      obtain ⟨next_timely, outcome⟩ := timely.perform_cases occurrence
      exact ⟨next_timely, reports.outcome outcome, (timing_outcome outcome).trans same⟩)
    occurrences ⟨isTimely_start timing, reports_start timing, rfl⟩
  exact invariant.2

theorem Outcome.broadcast (outcome : Outcome history next)
    (statuses : history.poller.statuses = lastResult history.applied) :
    (next.applied = history.applied ∧ next.poller.changes = history.poller.changes) ∨
      ∃ batch broadcast, next.applied = batch :: history.applied ∧
        next.poller.changes = broadcast ++ history.poller.changes ∧ broadcast.Nodup ∧
        ∀ change, change ∈ broadcast ↔
          (lastResult history.applied).get? change.url = some (!change.isOnline) ∧
            batch.result.get? change.url = some change.isOnline := by
  cases outcome with
  | quiet statuses transitions changes timing applied => exact .inl ⟨applied, changes⟩
  | applied findings id reading newest latest poller applied =>
    obtain ⟨-, -, changes⟩ := Poller.complete_of_newest newest findings.entries reading
    refine .inr ⟨_, _, applied, poller ▸ changes, ?_, ?_⟩
    · refine List.pairwise_reverse.mpr ((Poller.flips_distinct findings.distinct).imp ?_)
      intro first second different same
      exact different (congrArg Change.url same.symm)
    · intro change
      rw [List.mem_reverse, Poller.mem_flips_iff findings.distinct, statuses]

/-- At all times the statuses are the result applied last, and the transitions are the latest flips of
the urls that were young when it was applied. A batch that is applied broadcasts the flips between the
result before it and its own, each of them once, and nothing else broadcasts. -/
theorem board_of_applied (timing : Timing) (occurrences : List Occurrence) (occurrence : Occurrence) :
    let history := (start timing).follow occurrences
    let next := history.perform occurrence
    history.poller.statuses = lastResult history.applied ∧
    (∀ url transition, history.poller.transitions.get? url = some transition ↔
      latestFlip? url history.applied = some transition ∧
        lastTime history.applied - transition.time < timing.transitionWindow) ∧
    ((next.applied = history.applied ∧ next.poller.changes = history.poller.changes) ∨
      ∃ batch broadcast, next.applied = batch :: history.applied ∧
        next.poller.changes = broadcast ++ history.poller.changes ∧ broadcast.Nodup ∧
        ∀ change, change ∈ broadcast ↔
          (lastResult history.applied).get? change.url = some (!change.isOnline) ∧
            batch.result.get? change.url = some change.isOnline) := by
  intro history next
  obtain ⟨reports, same⟩ := follow_reports timing occurrences
  obtain ⟨-, outcome⟩ := (isTimely_follow timing occurrences).perform_cases occurrence
  refine ⟨reports.statuses, ?_, outcome.broadcast reports.statuses⟩
  have transitions := reports.transitions
  rw [same] at transitions
  exact transitions

/-- One url flips, and another is new. -/
theorem board_of_applied_flip :
    let online : Findings := ⟨[("a", true)], List.pairwise_singleton _ _⟩
    let offline : Findings := ⟨[("b", true), ("a", false)], List.pairwise_pair.mpr (by decide)⟩
    let history := (start {}).follow
      [.request ["a"] 0, .pass 1, .finish 0 (some online) 1, .pass 1, .request ["b", "a"] 2,
        .finish 1 (some offline) 2]
    history.poller.statuses = offline.entries ∧
    history.poller.transitions.get? "a" = some ⟨true, 2⟩ ∧
    ∀ transition, history.poller.transitions.get? "b" ≠ some transition := by
  intro online offline history
  have applied : history.applied = [⟨offline.entries, 2⟩, ⟨online.entries, 1⟩] := by rfl
  obtain ⟨statuses, transitions, -⟩ := board_of_applied {}
    [.request ["a"] 0, .pass 1, .finish 0 (some online) 1, .pass 1, .request ["b", "a"] 2,
      .finish 1 (some offline) 2] (.pass 0)
  refine ⟨?_, ?_, ?_⟩
  · exact statuses.trans (congrArg lastResult applied)
  · refine (transitions "a" ⟨true, 2⟩).mpr ?_
    rw [applied]
    exact ⟨rfl, by decide⟩
  · intro transition found
    have flipped := ((transitions "b" transition).mp found).1
    rw [applied] at flipped
    cases flipped

end History
end ProxyWatch.Health
