import ProxyWatch.Proofs.Health.BoardHistory
import ProxyWatch.Proofs.Health.Validation

/-! How a url is presented, told from the results that were applied and the instant alone.

The table of transitions is swept only when a result is applied, and never shows it: what has been swept
was too old then and is too old ever after. -/
namespace ProxyWatch.Health

/-- The latest flip of a url was from some status, and a window that began with it is not over. -/
def FlippedFrom (previous : Bool) (applied : List Applied) (url : String) (now window : Nat) : Prop :=
  ∃ time, latestFlip? url applied = some ⟨previous, time⟩ ∧ now - time < window

/-- No result that was applied after some others has a url flip. Both are latest first. -/
def Unflipped (url : String) (applied : List Applied) : List Applied → Prop
  | [] => True
  | batch :: since =>
    flip? url (lastResult (since ++ applied)) batch.result = none ∧ Unflipped url applied since

/-- How a url is presented that does not seem to be going anywhere. -/
def steady (isOnline : Bool) : Presentation := if isOnline then .steadyOnline else .steadyOffline

/-- How a url is presented that has just gone to a status. -/
def going (isOnline : Bool) : Presentation := if isOnline then .goingOnline else .goingOffline

variable {applied since earlier : List Applied} {batch : Applied} {url : String} {previous isOnline : Bool}
  {now window : Nat} {transitions : Dictionary Transition}

theorem latestFlip?_append (unflipped : Unflipped url applied since) :
    latestFlip? url (since ++ applied) = latestFlip? url applied := by
  induction since with
  | nil => rfl
  | cons batch since ih =>
    obtain ⟨kept, unflipped⟩ := unflipped
    rw [List.cons_append, latestFlip?, kept]
    exact ih unflipped

/-- A url that was neither dropped nor flipped has kept its status. -/
theorem get?_lastResult_append (unflipped : Unflipped url applied since)
    (held : ∀ batch ∈ since, (batch.result.get? url).isSome)
    (found : (lastResult applied).get? url = some isOnline) :
    (lastResult (since ++ applied)).get? url = some isOnline := by
  induction since with
  | nil => exact found
  | cons batch since ih =>
    obtain ⟨kept, unflipped⟩ := unflipped
    have before := ih unflipped fun other member => held other (List.mem_cons_of_mem _ member)
    obtain ⟨status, after⟩ := Option.isSome_iff_exists.mp (held batch List.mem_cons_self)
    have same : status = isOnline := by
      simp only [flip?, before, after] at kept
      by_contra other
      simp [Ne.symm other] at kept
    exact after.trans (congrArg some same)

/-- The results from a flip on tell of it until the url is flipped again. -/
theorem latestFlip?_of_flip (unflipped : Unflipped url (batch :: earlier) since)
    (flipped : flip? url (lastResult earlier) batch.result = some previous) :
    latestFlip? url (since ++ batch :: earlier) = some ⟨previous, batch.time⟩ := by
  rw [latestFlip?_append unflipped, latestFlip?, flipped]

private theorem classify_of_transition (found : transitions.get? url = some ⟨!isOnline, time⟩)
    (young : now - time < window) :
    classify url isOnline transitions false now window = going isOnline := by
  cases isOnline <;> simp [classify, found, Transition.isRecent, young, going]

private theorem classify_of_no_transition
    (absent : ∀ time, transitions.get? url = some ⟨!isOnline, time⟩ → ¬ now - time < window) :
    classify url isOnline transitions false now window = steady isOnline := by
  unfold classify steady
  cases found : transitions.get? url with
  | none => simp
  | some transition =>
    obtain ⟨previous, time⟩ := transition
    by_cases mismatched : previous = isOnline
    · cases isOnline <;> simp [mismatched]
    · have matching : previous = !isOnline := Bool.eq_not_of_ne mismatched
      have old := absent time (matching ▸ found)
      simp [Transition.isRecent, old]

theorem presentation_iff {shown : Presentation} {flippedFrom : Bool → Prop}
    (kinds : (flippedFrom (!isOnline) ∧ shown = going isOnline) ∨
      (¬ flippedFrom (!isOnline) ∧ shown = steady isOnline)) :
    (shown = .goingOnline ↔ isOnline = true ∧ flippedFrom false) ∧
    (shown = .goingOffline ↔ isOnline = false ∧ flippedFrom true) ∧
    (shown = .steadyOnline ↔ isOnline = true ∧ ¬ flippedFrom false) ∧
    (shown = .steadyOffline ↔ isOnline = false ∧ ¬ flippedFrom true) := by
  obtain ⟨flipped, rfl⟩ | ⟨flipped, rfl⟩ := kinds
  · cases isOnline <;> simpa [going] using flipped
  · cases isOnline <;> simpa [steady] using flipped

namespace History
variable {history : History}

/-- What the table of transitions holds is enough at every instant from the last applied result on. -/
theorem Reports.get?_transitions_iff (reports : history.Reports) (later : lastTime history.applied ≤ now)
    (time : Nat) :
    (history.poller.transitions.get? url = some ⟨previous, time⟩ ∧
        now - time < history.poller.timing.transitionWindow) ↔
      latestFlip? url history.applied = some ⟨previous, time⟩ ∧
        now - time < history.poller.timing.transitionWindow := by
  rw [reports.transitions]
  refine and_congr_left fun young => and_iff_left ?_
  dsimp only
  omega

/-- While no batch is being validated, a url is going to the status that it reads if it has flipped to that
status within the window, and else it is steady. -/
theorem Reports.classify_of_idle (reports : history.Reports) (later : lastTime history.applied ≤ now)
    (idle : history.poller.validating = false) (url : String) :
    let isOnline := (history.poller.statuses.get? url).getD false
    let window := history.poller.timing.transitionWindow
    (FlippedFrom (!isOnline) history.applied url now window →
      history.poller.classify url now = going isOnline) ∧
    (¬ FlippedFrom (!isOnline) history.applied url now window →
      history.poller.classify url now = steady isOnline) := by
  intro isOnline window
  have shown : history.poller.classify url now =
      Health.classify url isOnline history.poller.transitions false now window := by
    rw [← idle]
    rfl
  rw [shown]
  constructor
  · rintro ⟨time, flipped, young⟩
    obtain ⟨kept, young⟩ := (reports.get?_transitions_iff later time).mpr ⟨flipped, young⟩
    exact classify_of_transition kept young
  · intro unflipped
    refine classify_of_no_transition fun time kept young => unflipped ?_
    obtain ⟨flipped, young⟩ := (reports.get?_transitions_iff later time).mp ⟨kept, young⟩
    exact ⟨time, flipped, young⟩

/-- A flip is shown while it is young, unless the url has been flipped again or dropped, and is not shown
any more once it is old. -/
theorem Reports.classify_of_flip (reports : history.Reports) (later : lastTime history.applied ≤ now)
    (idle : history.poller.validating = false)
    (applied : history.applied = since ++ batch :: earlier)
    (flipped : flip? url (lastResult earlier) batch.result = some previous)
    (unflipped : Unflipped url (batch :: earlier) since) :
    let isOnline := (history.poller.statuses.get? url).getD false
    let window := history.poller.timing.transitionWindow
    (batch.time + window ≤ now → history.poller.classify url now = steady isOnline) ∧
    ((∀ other ∈ since, (other.result.get? url).isSome) → batch.time ≤ now → now < batch.time + window →
      history.poller.classify url now = going !previous) := by
  intro isOnline window
  have latest : latestFlip? url history.applied = some ⟨previous, batch.time⟩ := by
    rw [applied]
    exact latestFlip?_of_flip unflipped flipped
  obtain ⟨moving, resting⟩ := reports.classify_of_idle later idle url
  constructor
  · intro old
    refine resting ?_
    rintro ⟨time, found, young⟩
    rw [latest] at found
    cases found
    omega
  · intro held begun young
    have current : (lastResult history.applied).get? url = some !previous := by
      rw [applied]
      exact get?_lastResult_append unflipped held (flip?_eq_some_iff.mp flipped).2
    have reads : isOnline = !previous := by
      simp only [isOnline, reports.statuses, current, Option.getD_some]
    rw [← reads]
    refine moving ⟨batch.time, ?_, by omega⟩
    rw [latest]
    simp [reports.statuses, current]

/-- At every instant from the last applied result on a url is neutral exactly while a batch is being
validated. Else it is going to the status that it reads if its latest flip was to that status and began
less than a window ago, and it is steady if not. So a flip is shown until its window is over, and no
longer, as long as the url is neither flipped again nor dropped. -/
theorem presentation_of_history (timing : Timing) (occurrences : List Occurrence) (url : String)
    (now : Nat) (later : lastTime ((start timing).follow occurrences).applied ≤ now) :
    let history := (start timing).follow occurrences
    let shown := history.poller.classify url now
    let isOnline := (history.poller.statuses.get? url).getD false
    let flippedFrom previous := FlippedFrom previous history.applied url now timing.transitionWindow
    (shown = .neutral ↔ history.poller.validating = true) ∧
    (history.poller.validating = false →
      (shown = .goingOnline ↔ isOnline = true ∧ flippedFrom false) ∧
      (shown = .goingOffline ↔ isOnline = false ∧ flippedFrom true) ∧
      (shown = .steadyOnline ↔ isOnline = true ∧ ¬ flippedFrom false) ∧
      (shown = .steadyOffline ↔ isOnline = false ∧ ¬ flippedFrom true) ∧
      ∀ since batch earlier previous, history.applied = since ++ batch :: earlier →
        flip? url (lastResult earlier) batch.result = some previous →
        Unflipped url (batch :: earlier) since →
        (batch.time + timing.transitionWindow ≤ now → shown = steady isOnline) ∧
        ((∀ other ∈ since, (other.result.get? url).isSome) → batch.time ≤ now →
          now < batch.time + timing.transitionWindow → shown = going !previous)) := by
  intro history shown isOnline flippedFrom
  obtain ⟨reports, same⟩ := follow_reports timing occurrences
  refine ⟨classify_eq_neutral_iff .., fun idle => ?_⟩
  obtain ⟨moving, resting⟩ := reports.classify_of_idle later idle url
  have kinds : (flippedFrom (!isOnline) ∧ shown = going isOnline) ∨
      (¬ flippedFrom (!isOnline) ∧ shown = steady isOnline) := by
    rw [same] at moving resting
    by_cases flipped : flippedFrom (!isOnline)
    · exact .inl ⟨flipped, moving flipped⟩
    · exact .inr ⟨flipped, resting flipped⟩
  obtain ⟨online, offline, steadyOnline, steadyOffline⟩ := presentation_iff kinds
  refine ⟨online, offline, steadyOnline, steadyOffline, ?_⟩
  intro since batch earlier previous applied flipped unflipped
  have flip := reports.classify_of_flip later idle applied flipped unflipped
  rw [same] at flip
  exact flip

/-- A url flips at 2 ms: it is shown as going online until 2 s have passed. -/
theorem presentation_of_history_flip :
    let offline : Findings := ⟨[("a", false)], List.pairwise_singleton _ _⟩
    let online : Findings := ⟨[("a", true)], List.pairwise_singleton _ _⟩
    let occurrences : List Occurrence :=
      [.request ["a"] 0, .pass 1, .finish 0 (some offline) 1, .request ["a", "a", "b"] 1, .pass 1,
        .finish 1 (some online) 2]
    let history := (start {}).follow occurrences
    lastTime history.applied ≤ 2001 ∧ history.poller.classify "a" 2001 = .goingOnline ∧
      history.poller.classify "a" 2002 = .steadyOnline := by
  intro offline online occurrences history
  have first : lastTime history.applied ≤ 2001 := by decide
  have second : lastTime history.applied ≤ 2002 := by decide
  have young := presentation_of_history {} occurrences "a" 2001 first
  have old := presentation_of_history {} occurrences "a" 2002 second
  have applied : history.applied = [⟨online.entries, 2⟩, ⟨offline.entries, 1⟩] := by rfl
  refine ⟨first, ?_, ?_⟩
  · refine (young.2 rfl).1.mpr ⟨rfl, 2, ?_, by decide⟩
    rw [applied]
    rfl
  · refine (old.2 rfl).2.2.1.mpr ⟨rfl, ?_⟩
    rintro ⟨time, flipped, young⟩
    rw [applied] at flipped
    cases flipped
    exact Nat.lt_irrefl _ young

end History
end ProxyWatch.Health
