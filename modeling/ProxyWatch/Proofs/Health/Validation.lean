import Mathlib.Data.List.Induction
import ProxyWatch.Proofs.Health.History

/-! When a poller says that it is validating.

It does so while the newest batch runs, and for good once the task of the newest batch has died: only
a result takes the word back. -/
namespace ProxyWatch.Health
namespace History

/-- The batches whose tasks run. -/
def runningIds (history : History) : List Nat := history.running.map (·.id)

/-- The batches whose tasks die in an occurrence: they ran before it, and it ends them without a
result. -/
def deathsIn (history : History) : Occurrence → List Nat
  | .finish id none reading =>
    if id ∈ history.runningIds ∧ id ∉ (history.perform (.finish id none reading)).runningIds then [id]
    else []
  | .pass _ | .request _ _ | .finish _ (some _) _ => []

/-- The batches whose tasks die in some occurrences, first to last. -/
def deaths (history : History) : List Occurrence → List Nat
  | [] => []
  | occurrence :: rest => history.deathsIn occurrence ++ (history.perform occurrence).deaths rest

/-- The batch started last still runs, or it is one of those whose tasks have died. -/
def IsNewestUnsettled (history : History) (dead : List Nat) : Prop :=
  ∃ id, history.started.head? = some id ∧ (id ∈ history.runningIds ∨ id ∈ dead)

/-- The flag says whether the newest batch is unsettled, and what has died does not run again. -/
structure Validates (history : History) (dead : List Nat) : Prop where
  validating : history.poller.validating = true ↔ history.IsNewestUnsettled dead
  started : ∀ id ∈ dead, id < history.poller.nextId
  ended : ∀ id ∈ dead, id ∉ history.runningIds

variable {history : History} {dead : List Nat} {id reading : Nat}

theorem deaths_concat (occurrences : List Occurrence) (occurrence : Occurrence) :
    ∀ history : History, history.deaths (occurrences ++ [occurrence]) =
      history.deaths occurrences ++ (history.follow occurrences).deathsIn occurrence := by
  induction occurrences with
  | nil => intro history; simp [deaths, follow]
  | cons first rest ih =>
    intro history
    simp only [List.cons_append, deaths, ih, List.append_assoc]
    rfl

private theorem deathsIn_of_unchanged {occurrence : Occurrence}
    (unchanged : history.perform occurrence = history) : history.deathsIn occurrence = [] := by
  unfold deathsIn
  split
  · rw [unchanged]
    exact if_neg fun ⟨runs, ended⟩ => ended runs
  all_goals rfl

private theorem validates_start (timing : Timing) : (start timing).Validates [] where
  validating := by simp [start, IsNewestUnsettled]
  started _ member := by cases member
  ended _ member := by cases member

theorem Validates.begin (validates : history.Validates dead) (urls : List String) (reading : Nat) :
    (history.begin urls reading).Validates dead where
  validating := by
    simp [History.begin, Poller.startBatch, IsNewestUnsettled, runningIds]
  started id member := Nat.lt_succ_of_lt (validates.started id member)
  ended id member runs := by
    rcases List.mem_cons.mp runs with rfl | old
    · exact Nat.lt_irrefl _ (validates.started _ member)
    · exact validates.ended id member old

theorem mem_runningIds_finish {other : Nat} (outcome : Option Findings) :
    other ∈ (history.finish id outcome reading).runningIds ↔ other ∈ history.runningIds ∧ other ≠ id := by
  rw [runningIds, (finish_frame history id outcome reading).2.2.2.2]
  simp only [runningIds, List.mem_map, List.mem_filter, bne_iff_ne]
  constructor
  · rintro ⟨task, ⟨member, different⟩, rfl⟩
    exact ⟨⟨task, member, rfl⟩, different⟩
  · rintro ⟨⟨task, member, rfl⟩, different⟩
    exact ⟨task, ⟨member, different⟩, rfl⟩

/-- The task of a batch dies: the flag stays as it is. -/
theorem Validates.die (validates : history.Validates dead) (timely : history.IsTimely)
    (runs : id ∈ history.runningIds) (reading : Nat) :
    (history.finish id none reading).Validates (dead ++ [id]) where
  validating := by
    refine validates.validating.trans ?_
    refine exists_congr fun newest => and_congr_right fun _ => ?_
    rw [mem_runningIds_finish, List.mem_append, List.mem_singleton]
    by_cases same : newest = id
    · simp [same, runs]
    · simp [same]
  started other member := by
    rcases List.mem_append.mp member with old | new
    · exact validates.started other old
    · obtain ⟨task, present, rfl⟩ := List.mem_map.mp runs
      exact List.mem_singleton.mp new ▸ timely.running task present
  ended other member stillRuns := by
    obtain ⟨ran, different⟩ := (mem_runningIds_finish none).mp stillRuns
    rcases List.mem_append.mp member with old | new
    · exact validates.ended other old ran
    · exact different (List.mem_singleton.mp new)

/-- The task of a batch ends with a result: the flag is taken back if the batch was the newest. -/
theorem Validates.settle (validates : history.Validates dead) (timely : history.IsTimely)
    (runs : id ∈ history.runningIds) (findings : Findings) (reading : Nat) :
    (history.finish id (some findings) reading).Validates dead where
  validating := by
    by_cases newest : history.poller.nextId = id + 1
    · have settled : (history.finish id (some findings) reading).poller.validating = false := by
        simp [History.finish, Poller.complete, newest]
      rw [settled]
      refine iff_of_false Bool.false_ne_true ?_
      rintro ⟨other, isHead, still⟩
      have same : id = other :=
        Option.some.inj ((timely.head?_started_iff.mpr newest).symm.trans isHead)
      subst same
      rcases still with stillRuns | died
      · exact absurd rfl ((mem_runningIds_finish _).mp stillRuns).2
      · exact absurd runs (validates.ended id died)
    · have ignored := Poller.complete_of_superseded newest findings.entries reading
      have same : (history.finish id (some findings) reading).poller.validating =
          history.poller.validating := by
        simp [History.finish, ignored]
      rw [same, validates.validating]
      refine exists_congr fun other => and_congr_right fun isHead => or_congr_left ?_
      rw [mem_runningIds_finish]
      have different : other ≠ id := by
        rintro rfl
        exact newest (timely.head?_started_iff.mp isHead)
      simp [different]
  started other member := by
    rw [(finish_frame history id (some findings) reading).1]
    exact validates.started other member
  ended other member stillRuns :=
    validates.ended other member ((mem_runningIds_finish _).mp stillRuns).1

theorem Validates.perform (validates : history.Validates dead) (timely : history.IsTimely)
    (occurrence : Occurrence) :
    (history.perform occurrence).Validates (dead ++ history.deathsIn occurrence) := by
  have idle (unchanged : history.perform occurrence = history) :
      (history.perform occurrence).Validates (dead ++ history.deathsIn occurrence) := by
    rw [deathsIn_of_unchanged unchanged, unchanged, List.append_nil]
    exact validates
  cases occurrence with
  | pass duration =>
    rw [deathsIn, List.append_nil]
    exact ⟨validates.validating, validates.started, validates.ended⟩
  | request urls reading =>
    by_cases possible : reading ≤ history.clock
    · have performed : history.perform (.request urls reading) = history.request urls reading :=
        if_pos possible
      rcases history.poller.request_cases urls reading with ⟨batch, found, answer⟩ | answer
      · exact idle (performed.trans (timely.request_joined found answer))
      · rw [performed, timely.request_begun answer, deathsIn, List.append_nil]
        exact validates.begin urls reading
    · exact idle (if_neg possible)
  | finish id outcome reading =>
    cases found : history.running.find? (·.id == id) with
    | none => exact idle (by simp [History.perform, found])
    | some task =>
      by_cases possible : task.begun ≤ reading ∧ reading ≤ history.clock
      · have performed : history.perform (.finish id outcome reading) =
            history.finish id outcome reading := by
          simp [History.perform, found, possible]
        have runs : id ∈ history.runningIds := by
          have same : task.id = id := by simpa using List.find?_some found
          exact List.mem_map.mpr ⟨task, List.mem_of_find?_eq_some found, same⟩
        rw [performed]
        cases outcome with
        | none =>
          have dies : history.deathsIn (.finish id none reading) = [id] := by
            rw [deathsIn, performed]
            exact if_pos ⟨runs, fun still => ((mem_runningIds_finish none).mp still).2 rfl⟩
          rw [dies]
          exact validates.die timely runs reading
        | some findings =>
          rw [deathsIn, List.append_nil]
          exact validates.settle timely runs findings reading
      · exact idle (by simp [History.perform, found, possible])

private theorem validates_follow (timing : Timing) (occurrences : List Occurrence) :
    ((start timing).follow occurrences).Validates ((start timing).deaths occurrences) := by
  induction occurrences using List.reverseRecOn with
  | nil => exact validates_start timing
  | append_singleton earlier occurrence validates =>
    rw [← follow_perform, deaths_concat]
    exact validates.perform (isTimely_follow timing earlier) occurrence

end History

theorem classify_eq_neutral_iff (url : String) (isOnline : Bool)
    (transitions : Dictionary Transition) (isValidating : Bool) (now window : Nat) :
    classify url isOnline transitions isValidating now window = .neutral ↔ isValidating = true := by
  cases isValidating with
  | true => simp [classify]
  | false =>
    refine iff_of_false ?_ Bool.false_ne_true
    -- every other branch is steady or going somewhere
    unfold classify
    cases isOnline <;> grind

namespace History

/-- Whatever happens, the flag is set exactly while the newest batch runs or if its task has died, and
urls are presented as neutral exactly while it is set. -/
theorem validating_iff (timing : Timing) (occurrences : List Occurrence) :
    let history := (start timing).follow occurrences
    (history.poller.validating = true ↔ ∃ id, history.started.head? = some id ∧
      (id ∈ history.runningIds ∨ id ∈ (start timing).deaths occurrences)) ∧
    ∀ url now, history.poller.classify url now = .neutral ↔ history.poller.validating = true :=
  ⟨(validates_follow timing occurrences).validating, fun _ _ =>
    classify_eq_neutral_iff ..⟩

/-- The task of the only batch dies, so that no batch runs, and the poller goes on validating. -/
theorem validating_after_death :
    let history := (start {}).follow [.request ["a"] 0, .finish 0 none 0]
    history.started = [0] ∧ history.runningIds = [] ∧
      history.poller.validating = true ∧ history.poller.classify "a" 0 = .neutral ∧
      ¬(history.poller.validating = true ↔
        ∃ id, history.started.head? = some id ∧ id ∈ history.runningIds) := by
  refine ⟨rfl, rfl, rfl, rfl, fun same => ?_⟩
  obtain ⟨id, -, runs⟩ := same.mp rfl
  cases runs

end History
end ProxyWatch.Health
