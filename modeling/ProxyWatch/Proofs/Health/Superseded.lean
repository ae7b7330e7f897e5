import ProxyWatch.Proofs.Health.History

/-! Batches that are superseded: when their tasks end shows nowhere, nor whether they end at all.

What a poller shows is told by its deeds alone: the batches that are started, and the ends of those that
were still the newest when they ended. -/
namespace ProxyWatch.Health

/-- How long an occurrence takes. -/
def Occurrence.duration : Occurrence → Nat
  | .pass duration => duration
  | .request _ _ | .finish _ _ _ => 0

private theorem Poller.request_of_isJoined {poller : Poller} {urls : List String} {now : Nat}
    (joined : poller.isJoined urls now = true) :
    ∃ batch, poller.batch = some batch ∧ poller.request urls now = (batch.id, poller) := by
  cases found : poller.batch with
  | none => simp [Poller.isJoined, found] at joined
  | some batch => exact ⟨batch, rfl, by simp [Poller.request, found, joined]⟩

namespace History

/-- Nothing comes of an occurrence: a request is joined or cannot be made, or a task ends after a newer
batch was started. -/
def isIdle (history : History) : Occurrence → Bool
  | .pass _ => true
  | .request urls reading => history.clock < reading || history.poller.isJoined urls reading
  | .finish id _ _ => history.started.head? != some id

/-- What happens that is not idle, and when. -/
def deeds (history : History) : List Occurrence → List (Nat × Occurrence)
  | [] => []
  | occurrence :: rest =>
    if history.isIdle occurrence then (history.perform occurrence).deeds rest
    else (history.clock, occurrence) :: (history.perform occurrence).deeds rest

/-- The occurrences that happen no later than an instant, told at some time. -/
def upTo (instant clock : Nat) : List Occurrence → List Occurrence
  | [] => []
  | occurrence :: rest =>
    if clock + occurrence.duration ≤ instant then
      occurrence :: upTo instant (clock + occurrence.duration) rest
    else []

/-- A history at an instant, after everything that happens by then. -/
def asOf (history : History) (instant : Nat) (occurrences : List Occurrence) : History :=
  history.follow (upTo instant history.clock occurrences)

/-- Does a deed at its time. -/
def act (history : History) (deed : Nat × Occurrence) : History :=
  { history with clock := deed.1 }.perform deed.2

def replay (history : History) (deeds : List (Nat × Occurrence)) : History := deeds.foldl act history

/-- The pollers are the same, and so is the task of the newest batch. Older tasks may differ. -/
structure Alike (history other : History) : Prop where
  poller : other.poller = history.poller
  started : other.started = history.started
  newest : ∀ id, history.started.head? = some id →
    other.running.find? (·.id == id) = history.running.find? (·.id == id)

variable {history other : History} {occurrence : Occurrence} {id newer instant : Nat}

theorem Alike.refl (history : History) : Alike history history := ⟨rfl, rfl, fun _ _ => rfl⟩

theorem Alike.trans {third : History} (first : Alike history other) (second : Alike other third) :
    Alike history third where
  poller := second.poller.trans first.poller
  started := second.started.trans first.started
  newest id isHead := by
    rw [second.newest id (first.started ▸ isHead), first.newest id isHead]

theorem find?_finish_running (outcome : Option Findings) (reading : Nat) (other : Nat) :
    (history.finish id outcome reading).running.find? (·.id == other) =
      if id = other then none else history.running.find? (·.id == other) := by
  rw [(finish_frame history id outcome reading).2.2.2.2, List.find?_filter]
  split
  · rename_i same
    subst same
    refine List.find?_eq_none.mpr ?_
    simp
  · rename_i different
    congr 1
    funext task
    by_cases hit : task.id = other
    · simp [hit, Ne.symm different]
    · simp [hit]

/-- The end of a task after a newer batch was started leaves the poller as it is. -/
theorem IsTimely.finish_alike (timely : history.IsTimely) (late : history.started.head? ≠ some id)
    (outcome : Option Findings) (reading : Nat) : Alike history (history.finish id outcome reading) where
  poller := by
    have superseded : history.poller.nextId ≠ id + 1 := fun isNewest =>
      late (timely.head?_started_iff.mpr isNewest)
    cases outcome with
    | none => rfl
    | some findings => exact Poller.complete_of_superseded superseded findings.entries reading
  started := (finish_frame history id outcome reading).2.2.1
  newest other isHead := by
    have different : id ≠ other := fun same => late (same ▸ isHead)
    rw [find?_finish_running, if_neg different]

theorem IsTimely.late_alike (timely : history.IsTimely) (late : history.started.head? ≠ some id)
    (outcome : Option Findings) (reading : Nat) :
    Alike history (history.perform (.finish id outcome reading)) := by
  rw [perform]
  split
  · exact .refl history
  split
  · exact timely.finish_alike late outcome reading
  · exact .refl history

private theorem IsTimely.idle_alike (timely : history.IsTimely) (idle : history.isIdle occurrence = true) :
    Alike history (history.perform occurrence) := by
  cases occurrence with
  | pass duration => exact ⟨rfl, rfl, fun _ _ => rfl⟩
  | request urls reading =>
    rw [perform]
    split
    · rename_i possible
      have joined : history.poller.isJoined urls reading = true := by
        simpa [isIdle, Nat.not_lt.mpr possible] using idle
      obtain ⟨batch, found, answer⟩ := Poller.request_of_isJoined joined
      rw [timely.request_joined found answer]
      exact .refl history
    · exact .refl history
  | finish id outcome reading =>
    exact timely.late_alike (by simpa [isIdle] using idle) outcome reading

theorem perform_frame (history : History) (occurrence : Occurrence) :
    history.started <:+ (history.perform occurrence).started ∧
      (history.perform occurrence).clock = history.clock + occurrence.duration := by
  have unchanged : history.started <:+ history.started ∧ history.clock = history.clock :=
    ⟨List.suffix_refl _, rfl⟩
  cases occurrence with
  | pass duration => exact ⟨List.suffix_refl _, rfl⟩
  | request urls reading =>
    rw [perform]
    split
    · unfold request
      dsimp only
      split
      · exact unchanged
      · exact ⟨List.suffix_cons _ _, rfl⟩
    · exact unchanged
  | finish id outcome reading =>
    rw [perform]
    split
    · exact unchanged
    split
    · obtain ⟨-, -, started, clock, -⟩ := finish_frame history id outcome reading
      rw [started, clock]
      exact unchanged
    · exact unchanged

theorem mem_started_follow (started : id ∈ history.started) (occurrences : List Occurrence) :
    id ∈ (history.follow occurrences).started :=
  follow_invariant (id ∈ ·.started) (fun history occurrence member =>
    (perform_frame history occurrence).1.subset member) occurrences started

private theorem IsTimely.late_of_newer (timely : history.IsTimely) (started : newer ∈ history.started)
    (older : id < newer) : history.started.head? ≠ some id := by
  intro isHead
  have newest := timely.head?_started_iff.mp isHead
  have bound := timely.mem_started_iff.mp started
  omega

theorem poller_of_newer (timing : Timing) (earlier later : List Occurrence)
    (started : newer ∈ ((start timing).follow earlier).started) (older : id < newer)
    (outcome : Option Findings) (reading : Nat) :
    let history := ((start timing).follow earlier).follow later
    (history.perform (.finish id outcome reading)).poller = history.poller := by
  intro history
  have timely : history.IsTimely := by
    have whole := isTimely_follow timing (earlier ++ later)
    rwa [follow, List.foldl_append] at whole
  have late := timely.late_of_newer (mem_started_follow started later) older
  exact (timely.late_alike late outcome reading).poller

/-- Only the batch that was started last is ever applied. -/
theorem mem_started_of_applied {findings : Findings} {reading : Nat}
    (applied : (history.perform (.finish id (some findings) reading)).applied ≠ history.applied) :
    id ∈ (history.perform (.finish id (some findings) reading)).started := by
  refine (perform_frame history _).1.subset (List.mem_of_mem_head? ?_)
  refine Classical.byContradiction fun notNewest => applied ?_
  rw [perform]
  split
  · rfl
  split
  · exact if_neg notNewest
  · rfl

/-- A deed done in histories that are alike, at the same time, leaves them alike. -/
theorem Alike.deed (alike : Alike history other) (clock : other.clock = history.clock)
    (isDeed : history.isIdle occurrence = false) :
    Alike (history.perform occurrence) (other.perform occurrence) := by
  cases occurrence with
  | pass duration => cases isDeed
  | request urls reading =>
    simp only [perform, clock]
    split
    · simp only [request, alike.poller, alike.started]
      split
      · exact ⟨rfl, rfl, alike.newest⟩
      · refine ⟨rfl, rfl, ?_⟩
        intro id isHead
        cases isHead
        simpa using clock
    · exact alike
  | finish id outcome reading =>
    have isHead : history.started.head? = some id := by simpa [isIdle] using isDeed
    simp only [perform, alike.newest id isHead, clock]
    split
    · exact alike
    split
    · refine ⟨?_, ?_, ?_⟩
      · cases outcome with
        | none => exact alike.poller
        | some findings => simp only [History.finish, alike.poller]
      · rw [(finish_frame ..).2.2.1, (finish_frame ..).2.2.1, alike.started]
      · intro newest stillHead
        rw [(finish_frame ..).2.2.1, isHead] at stillHead
        cases stillHead
        simp only [find?_finish_running, if_true]
    · exact alike

private theorem alike_replay (occurrences : List Occurrence) :
    ∀ {history other : History}, history.IsTimely → Alike history other →
      Alike (history.follow occurrences) (other.replay (history.deeds occurrences)) := by
  induction occurrences with
  | nil => exact fun _ alike => alike
  | cons occurrence rest ih =>
    intro history other timely alike
    have timelyNext := (timely.perform_cases occurrence).1
    rw [deeds]
    split
    · rename_i idle
      -- the histories part here, so the one that idles is compared with the one that does not move
      have before : Alike (history.perform occurrence) history :=
        have step := timely.idle_alike idle
        ⟨step.poller.symm, step.started.symm, fun id isHead =>
          (step.newest id (step.started ▸ isHead)).symm⟩
      exact ih timelyNext (before.trans alike)
    · rename_i isDeed
      have timed : Alike history { other with clock := history.clock } :=
        ⟨alike.poller, alike.started, alike.newest⟩
      exact ih timelyNext (timed.deed rfl (by simpa using isDeed))

private theorem clock_le_of_mem_deeds (occurrences : List Occurrence) :
    ∀ {history : History}, ∀ deed ∈ history.deeds occurrences, history.clock ≤ deed.1 := by
  induction occurrences with
  | nil =>
    intro history deed member
    cases member
  | cons occurrence rest ih =>
    intro history deed member
    have later : deed ∈ (history.perform occurrence).deeds rest → history.clock ≤ deed.1 := fun member =>
      Nat.le_trans ((perform_frame history occurrence).2 ▸ Nat.le_add_right _ _) (ih deed member)
    rw [deeds] at member
    split at member
    · exact later member
    · rcases List.mem_cons.mp member with rfl | member
      · exact Nat.le_refl _
      · exact later member

private theorem deeds_upTo (instant : Nat) (occurrences : List Occurrence) :
    ∀ {history : History}, history.clock ≤ instant →
      history.deeds (upTo instant history.clock occurrences) =
        (history.deeds occurrences).filter (·.1 ≤ instant) := by
  induction occurrences with
  | nil => exact fun _ => rfl
  | cons occurrence rest ih =>
    intro history begun
    have clock := (perform_frame history occurrence).2
    rw [upTo]
    split
    · rename_i due
      have tail := @ih (history.perform occurrence) (clock ▸ due)
      rw [clock] at tail
      simp only [deeds, tail]
      split
      · rfl
      · rw [List.filter_cons, if_pos (by simpa using begun)]
    · rename_i notDue
      have afterwards : ((history.perform occurrence).deeds rest).filter (·.1 ≤ instant) = [] := by
        refine List.filter_eq_nil_iff.mpr fun deed member => ?_
        have bound := clock_le_of_mem_deeds rest deed member
        simp only [decide_eq_true_eq]
        omega
      have isPass : history.isIdle occurrence = true := by
        cases occurrence with
        | pass duration => rfl
        | request | finish => exact absurd begun notDue
      simp only [deeds, isPass, if_true, afterwards]

/-- Histories of the same deeds show the same at every instant. -/
theorem poller_asOf (timing : Timing) {first second : List Occurrence}
    (same : (start timing).deeds first = (start timing).deeds second) (instant : Nat) :
    ((start timing).asOf instant first).poller = ((start timing).asOf instant second).poller := by
  have told (occurrences : List Occurrence) :
      ((start timing).asOf instant occurrences).poller =
        ((start timing).replay (((start timing).deeds occurrences).filter (·.1 ≤ instant))).poller := by
    rw [asOf, ← deeds_upTo instant occurrences (Nat.zero_le instant)]
    exact (alike_replay _ (isTimely_start timing) (.refl _)).poller.symm
  rw [told first, told second, same]

/-- A batch whose task ends after a newer one was started leaves the poller as it is: its statuses, its
transitions, its flag and what it has broadcast. So once a batch has been applied no batch started before
it alters the poller. And runs in which the same batches are started at the same times, and the same of
them end as the newest, show the same at every instant, whenever the superseded ones end, if they do. -/
theorem superseded_is_silent (timing : Timing) :
    (∀ earlier later id newer outcome reading,
      newer ∈ ((start timing).follow earlier).started → id < newer →
        let history := ((start timing).follow earlier).follow later
        (history.perform (.finish id outcome reading)).poller = history.poller) ∧
    (∀ earlier later id applied findings appliedAt outcome reading,
      let history := (start timing).follow earlier
      let next := history.perform (.finish applied (some findings) appliedAt)
      next.applied ≠ history.applied → id < applied →
        ((next.follow later).perform (.finish id outcome reading)).poller = (next.follow later).poller) ∧
    (∀ first second, (start timing).deeds first = (start timing).deeds second → ∀ instant,
      ((start timing).asOf instant first).poller = ((start timing).asOf instant second).poller) := by
  refine ⟨?_, ?_, ?_⟩
  · intro earlier later id newer outcome reading started older
    exact poller_of_newer timing earlier later started older outcome reading
  · intro earlier later id applied findings appliedAt outcome reading history next isApplied older
    have reached : (start timing).follow (earlier ++ [.finish applied (some findings) appliedAt]) = next :=
      (follow_perform ..).symm
    have started : applied ∈ next.started := mem_started_of_applied isApplied
    have silent := poller_of_newer timing _ later (reached ▸ started) older outcome reading
    rwa [reached] at silent
  · intro first second same instant
    exact poller_asOf timing same instant

/-- The first of two batches ends before, or after, or not at all, once the second has been started. -/
theorem superseded_is_silent_reordered :
    let online : Findings := ⟨[("a", true)], List.pairwise_singleton _ _⟩
    let offline : Findings := ⟨[("a", false)], List.pairwise_singleton _ _⟩
    let asked (later : List Occurrence) : List Occurrence :=
      .request ["a"] 0 :: .pass 3 :: .request ["a", "b"] 3 :: later
    let before := asked [.finish 0 (some online) 3, .pass 4, .finish 1 (some offline) 7, .pass 9]
    let after := asked [.pass 4, .finish 1 (some offline) 7, .pass 2, .finish 0 (some online) 9]
    let never := asked [.pass 1, .pass 3, .finish 1 (some offline) 7]
    let history := start {}
    history.deeds before = history.deeds after ∧ history.deeds after = history.deeds never ∧
      (history.asOf 9 before).poller = (history.asOf 9 after).poller ∧
      (history.asOf 9 after).poller = (history.asOf 9 never).poller ∧
      (history.follow after).poller.statuses = offline.entries := by
  intro online offline asked before after never history
  obtain ⟨superseded, applied, alike⟩ := superseded_is_silent {}
  have same : history.deeds before = history.deeds after := by rfl
  have ends : history.deeds after = history.deeds never := by rfl
  refine ⟨same, ends, alike before after same 9, alike after never ends 9, ?_⟩
  have grows : ((history.follow (asked [.pass 4])).perform (.finish 1 (some offline) 7)).applied.length ≠
      (history.follow (asked [.pass 4])).applied.length := by decide +kernel
  have silent := applied (asked [.pass 4]) [.pass 2] 0 1 offline 7 (some online) 9
    (fun same => grows (congrArg List.length same)) Nat.one_pos
  have shown : (((history.follow (asked [.pass 4])).perform (.finish 1 (some offline) 7)).follow
      [.pass 2]).poller.statuses = offline.entries := by decide +kernel
  exact (congrArg Poller.statuses silent).trans shown

end History
end ProxyWatch.Health
