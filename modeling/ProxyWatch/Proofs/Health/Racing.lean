import Mathlib.Data.List.MinMax
import ProxyWatch.Proofs.Health.SafeChecks
import ProxyWatch.Proofs.Url.Domains

/-! Probes that run at once, each against the clock.

All probes of a check begin together, and each has its own deadline. What is due at an instant is polled in any order,
and time goes on only to the next instant at which something is due. A probe that is polled is asked for its answer
before the clock is looked at, so one that answers at its deadline is in time. -/
namespace ProxyWatch.Health

/-- What a probe says when it is polled at an instant. -/
def Behaviour.answer? (now : Nat) : Behaviour → Option Bool
  | answers delay isOnline => if delay ≤ now then some isOnline else none
  | hangs | crashes _ => none

/-- One probe and its deadline, and what came of them. -/
structure Race where
  text : String
  behaviour : Behaviour
  verdict : Option Bool := none

namespace Race

/-- When a race is woken. -/
def due (timeout : Nat) (race : Race) : Nat := race.behaviour.duration timeout

/-- The probe comes first, then the clock. -/
def poll (timeout now : Nat) (race : Race) : Race :=
  match race.behaviour.answer? now with
  | some isOnline => { race with verdict := some isOnline }
  | none => if timeout ≤ now then { race with verdict := some false } else race

end Race

/-- The races of a check, at an instant since it began. -/
structure Round where
  now : Nat
  races : List Race

namespace Round

/-- Nothing is known at the beginning. -/
def start [Url.Idna] (calls : List (String × Behaviour)) : Round :=
  ⟨0, (probing calls).map fun call => ⟨call.1, call.2, none⟩⟩

def IsOver (round : Round) : Prop := ∀ race ∈ round.races, race.verdict ≠ none

/-- The last verdict of a text is the one kept. -/
def result (round : Round) : Dictionary Bool :=
  .ofList (round.races.map fun race => (race.text, race.verdict.getD false))

/-- What can happen next: a race that is due is polled, or time goes on to the first one that is not. -/
inductive Step (timeout : Nat) : Round → Round → Prop
  | poll {now : Nat} {race : Race} {before after : List Race} (isOpen : race.verdict = none)
      (woken : race.due timeout ≤ now) :
      Step timeout ⟨now, before ++ race :: after⟩ ⟨now, before ++ race.poll timeout now :: after⟩
  | wait {now : Nat} {race : Race} {races : List Race} (member : race ∈ races) (isOpen : race.verdict = none)
      (later : now < race.due timeout)
      (first : ∀ other ∈ races, other.verdict = none → race.due timeout ≤ other.due timeout) :
      Step timeout ⟨now, races⟩ ⟨race.due timeout, races⟩

/-- What a round comes to in a number of steps. -/
inductive Reaches (timeout : Nat) (first : Round) : Nat → Round → Prop
  | refl : Reaches timeout first 0 first
  | step {steps : Nat} {round next : Round} (earlier : Reaches timeout first steps round)
      (last : Step timeout round next) : Reaches timeout first (steps + 1) next

end Round

variable {timeout : Nat} {calls : List (String × Behaviour)} {race : Race} {round next : Round}

/-- Every probe answers or hangs. -/
def IsSafe (calls : List (String × Behaviour)) : Prop := ∀ call ∈ calls, ∀ delay, call.2 ≠ .crashes delay

private theorem Race.due_le (timeout : Nat) (race : Race) : race.due timeout ≤ timeout := by
  unfold due Behaviour.duration
  cases race.behaviour with
  | answers delay isOnline => exact Nat.min_le_right delay timeout
  | crashes delay => exact Nat.min_le_right delay timeout
  | hangs => exact Nat.le_refl timeout

/-- A race that is polled when it is due is settled, by an answer that is in time or else by the clock. -/
theorem Race.poll_due (timeout : Nat) (safe : ∀ delay, race.behaviour ≠ .crashes delay) :
    race.poll timeout (race.due timeout) = { race with verdict := some (race.behaviour.isOnline timeout) } := by
  unfold poll due Behaviour.duration
  cases found : race.behaviour with
  | answers delay isOnline =>
    by_cases timely : delay ≤ timeout
    · simp [Behaviour.answer?, Behaviour.isOnline, timely]
    · have after : min delay timeout = timeout := by omega
      simp [Behaviour.answer?, Behaviour.isOnline, timely, after]
  | hangs => simp [Behaviour.answer?, Behaviour.isOnline]
  | crashes delay => exact absurd found (safe delay)

namespace Round

theorem exists_step (isOpen : ¬ round.IsOver) (timeout : Nat) : ∃ next, Step timeout round next := by
  obtain ⟨now, races⟩ := round
  cases found : (races.filter (·.verdict.isNone)).argmin (Race.due timeout) with
  | none =>
    refine absurd (fun race member unsettled => ?_) isOpen
    have empty := List.argmin_eq_none.mp found
    exact List.filter_eq_nil_iff.mp empty race member (by simp [unsettled])
  | some race =>
    obtain ⟨member, unsettled⟩ := List.mem_filter.mp (List.argmin_mem found)
    have unsettled := Option.isNone_iff_eq_none.mp unsettled
    have first (other : Race) (among : other ∈ races) (pending : other.verdict = none) :
        race.due timeout ≤ other.due timeout :=
      List.le_of_mem_argmin (List.mem_filter.mpr ⟨among, by simp [pending]⟩) found
    by_cases woken : race.due timeout ≤ now
    · obtain ⟨before, after, rfl⟩ := List.append_of_mem member
      exact ⟨_, .poll unsettled woken⟩
    · exact ⟨_, .wait member unsettled (Nat.lt_of_not_le woken) first⟩

variable [Url.Idna]

/-- What is known of the races of some calls at any time. -/
structure Follows (calls : List (String × Behaviour)) (timeout : Nat) (round : Round) : Prop where
  races : round.races.map (fun race => (race.text, race.behaviour)) = probing calls
  pending : ∀ race ∈ round.races, race.verdict = none → round.now ≤ race.due timeout
  settled : ∀ race ∈ round.races, ∀ isOnline, race.verdict = some isOnline →
    isOnline = race.behaviour.isOnline timeout ∧ race.due timeout ≤ round.now
  now : round.now = 0 ∨ ∃ race ∈ round.races, race.due timeout = round.now

private theorem follows_start (calls : List (String × Behaviour)) (timeout : Nat) :
    (start calls).Follows calls timeout where
  races := by simp [start, Function.comp_def]
  pending _ _ _ := Nat.zero_le _
  settled race member isOnline known := by
    obtain ⟨call, -, rfl⟩ := List.mem_map.mp member
    cases known
  now := .inl rfl

theorem Follows.safe (follows : round.Follows calls timeout) (safe : IsSafe calls) (member : race ∈ round.races) :
    ∀ delay, race.behaviour ≠ .crashes delay := by
  have among : (race.text, race.behaviour) ∈ probing calls := by
    rw [← follows.races]
    exact List.mem_map_of_mem member
  exact safe _ (List.mem_filter.mp among).1

private theorem Follows.now_le (follows : round.Follows calls timeout) : round.now ≤ timeout := by
  obtain zero | ⟨race, -, same⟩ := follows.now
  · omega
  · exact same ▸ race.due_le timeout

theorem Follows.poll_eq {now : Nat} {before after : List Race}
    (follows : Follows calls timeout ⟨now, before ++ race :: after⟩) (safe : IsSafe calls)
    (isOpen : race.verdict = none) (woken : race.due timeout ≤ now) : race.due timeout = now ∧
      race.poll timeout now = { race with verdict := some (race.behaviour.isOnline timeout) } := by
  have member : race ∈ before ++ race :: after := by simp
  have due : race.due timeout = now := Nat.le_antisymm woken (follows.pending race member isOpen)
  have settled := Race.poll_due timeout (follows.safe safe member)
  rw [due] at settled
  exact ⟨due, settled⟩

theorem Follows.step (follows : round.Follows calls timeout) (safe : IsSafe calls) (step : Step timeout round next) :
    next.Follows calls timeout := by
  cases step with
  | @poll now race before after isOpen woken =>
    obtain ⟨due, polled⟩ := follows.poll_eq safe isOpen woken
    rw [polled]
    have others {other : Race} (member : other ∈ before ++
        { race with verdict := some (race.behaviour.isOnline timeout) } :: after) :
        other = { race with verdict := some (race.behaviour.isOnline timeout) } ∨ other ∈ before ++ race :: after := by
      simp only [List.mem_append, List.mem_cons] at member ⊢
      tauto
    refine ⟨by simpa using follows.races, fun other member unsettled => ?_, fun other member isOnline known => ?_, ?_⟩
    · obtain rfl | old := others member
      · cases unsettled
      · exact follows.pending other old unsettled
    · obtain rfl | old := others member
      · exact ⟨(Option.some.inj known).symm, Nat.le_of_eq due⟩
      · exact follows.settled other old isOnline known
    · exact .inr ⟨_, List.mem_append_right _ List.mem_cons_self, due⟩
  | @wait now race races member isOpen later first =>
    refine ⟨follows.races, first, fun other among isOnline known => ?_, .inr ⟨race, member, rfl⟩⟩
    obtain ⟨same, before⟩ := follows.settled other among isOnline known
    exact ⟨same, Nat.le_trans before (Nat.le_of_lt later)⟩

theorem Follows.reaches {first : Round} {steps : Nat} (follows : first.Follows calls timeout) (safe : IsSafe calls)
    (reached : Reaches timeout first steps round) : round.Follows calls timeout := by
  induction reached with
  | refl => exact follows
  | step earlier last ih => exact ih.step safe last

/-- Whether some race is due. -/
def isDue (timeout : Nat) (round : Round) : Bool :=
  round.races.any fun race => race.verdict.isNone && race.due timeout ≤ round.now

/-- How much is left to do: two steps for every race, but time need not go on while one is due. -/
def left (timeout : Nat) (round : Round) : Nat :=
  2 * round.races.countP (·.verdict.isNone) + if round.isDue timeout then 0 else 1

theorem Step.left_lt (step : Step timeout round next) (follows : round.Follows calls timeout) (safe : IsSafe calls) :
    next.left timeout < round.left timeout := by
  cases step with
  | @poll now race before after isOpen woken =>
    obtain ⟨-, polled⟩ := follows.poll_eq safe isOpen woken
    have due : isDue timeout ⟨now, before ++ race :: after⟩ = true := by simp [isDue, isOpen, woken]
    simp only [left, due, if_true, polled, List.countP_append, List.countP_cons, isOpen, Option.isNone_none,
      Option.isNone_some, Bool.false_eq_true, if_false]
    split <;> omega
  | @wait now race races member isOpen later first =>
    have idle : isDue timeout ⟨now, races⟩ = false := by
      refine List.any_eq_false.mpr fun other among => ?_
      by_cases unsettled : other.verdict = none
      · have after := first other among unsettled
        simp only [unsettled, Option.isNone_none, Bool.true_and, decide_eq_true_eq]
        omega
      · simp [unsettled]
    have due : isDue timeout ⟨race.due timeout, races⟩ = true :=
      List.any_eq_true.mpr ⟨race, member, by simp [isOpen]⟩
    simp [left, idle, due]

private theorem left_start_le (calls : List (String × Behaviour)) (timeout : Nat) :
    (start calls).left timeout ≤ 2 * calls.length + 1 := by
  have some_ : (start calls).races.countP (·.verdict.isNone) ≤ (start calls).races.length := List.countP_le_length
  have fewer : (start calls).races.length ≤ calls.length := by
    rw [start, List.length_map]
    exact List.length_filter_le _ calls
  unfold left
  split <;> omega

theorem Reaches.le {first : Round} {steps : Nat} (reached : Reaches timeout first steps round)
    (follows : first.Follows calls timeout) (safe : IsSafe calls) :
    steps + round.left timeout ≤ first.left timeout := by
  induction reached with
  | refl => omega
  | step earlier last ih =>
    have less := last.left_lt (follows.reaches safe earlier) safe
    omega

private theorem Reaches.exists_isOver {first : Round} {steps : Nat} (reached : Reaches timeout first steps round)
    (follows : first.Follows calls timeout) (safe : IsSafe calls) :
    ∃ steps last, Reaches timeout first steps last ∧ last.IsOver := by
  induction size : round.left timeout using Nat.strongRecOn generalizing round steps with
  | _ size ih =>
    by_cases ended : round.IsOver
    · exact ⟨steps, round, reached, ended⟩
    · obtain ⟨next, step⟩ := exists_step ended timeout
      have less := step.left_lt (follows.reaches safe reached) safe
      exact ih _ (size ▸ less) (reached.step step) rfl

/-- All races have the verdict that their own probe and the timeout give. -/
theorem Follows.verdicts (follows : round.Follows calls timeout) (ended : round.IsOver) :
    round.races.map (fun race => (race.text, race.verdict.getD false)) =
      (probing calls).map fun call => (call.1, call.2.isOnline timeout) := by
  rw [← follows.races, List.map_map]
  refine List.map_congr_left fun race member => ?_
  obtain ⟨isOnline, known⟩ := Option.ne_none_iff_exists'.mp (ended race member)
  obtain ⟨rfl, -⟩ := follows.settled race member isOnline known
  simp [known]

private theorem Follows.max_due (follows : round.Follows calls timeout) (ended : round.IsOver) :
    (((probing calls).map fun call => call.2.duration timeout).max?).getD 0 = round.now := by
  have same : (probing calls).map (fun call => call.2.duration timeout) = round.races.map (Race.due timeout) := by
    rw [← follows.races, List.map_map]
    rfl
  have before : ∀ due ∈ round.races.map (Race.due timeout), due ≤ round.now := by
    intro due member
    obtain ⟨race, among, rfl⟩ := List.mem_map.mp member
    obtain ⟨isOnline, known⟩ := Option.ne_none_iff_exists'.mp (ended race among)
    exact (follows.settled race among isOnline known).2
  rw [same]
  cases found : (round.races.map (Race.due timeout)).max? with
  | none =>
    obtain zero | ⟨race, member, -⟩ := follows.now
    · exact zero.symm
    · have among := List.mem_map_of_mem (f := Race.due timeout) member
      rw [List.max?_eq_none_iff.mp found] at among
      cases among
  | some latest =>
    obtain ⟨member, greatest⟩ := List.max?_eq_some_iff.mp found
    have least := before latest member
    obtain zero | ⟨race, among, due⟩ := follows.now
    · simp only [Option.getD_some]
      omega
    · have most := greatest _ (List.mem_map_of_mem among)
      simp only [Option.getD_some]
      omega

end Round

theorem Behaviour.isOnline_iff {behaviour : Behaviour} :
    behaviour.isOnline timeout = true ↔ ∃ delay ≤ timeout, behaviour = .answers delay true := by
  cases behaviour with
  | answers delay online => simp [isOnline, and_comm]
  | hangs | crashes => simp [isOnline]

/-- What is found by some calls: every text that is a url and no other, and that it is online if the last probe called
for it says so no later than the timeout. -/
structure Finds [Url.Idna] (calls : List (String × Behaviour)) (timeout : Nat) (found : Dictionary Bool) : Prop where
  keys : ∀ text, text ∈ found.keys ↔ text ∈ calls.map (·.1) ∧ ∃ url, Url.parse? text = some url
  value : ∀ text isOnline, found.get? text = some isOnline ↔ (∃ url, Url.parse? text = some url) ∧
    ∃ before behaviour after, calls = before ++ (text, behaviour) :: after ∧ text ∉ after.map (·.1) ∧
      (isOnline = true ↔ ∃ delay ≤ timeout, behaviour = .answers delay true)

private theorem finds_of_probing [Url.Idna] (calls : List (String × Behaviour)) (timeout : Nat) :
    Finds calls timeout (.ofList ((probing calls).map fun call => (call.1, call.2.isOnline timeout))) where
  keys text := by
    rw [Dictionary.mem_keys_ofList, List.map_map]
    simp only [List.mem_map, mem_probing]
    constructor
    · rintro ⟨call, ⟨member, read⟩, rfl⟩
      exact ⟨⟨call, member, rfl⟩, read⟩
    · rintro ⟨⟨call, member, rfl⟩, read⟩
      exact ⟨call, ⟨member, read⟩, rfl⟩
  value text isOnline := by
    rw [Dictionary.get?_ofList_map (Behaviour.isOnline timeout), Option.map_eq_some_iff]
    have kept (read : ∃ url, Url.parse? text = some url) :
        Dictionary.get? (.ofList (probing calls)) text = Dictionary.get? (.ofList calls) text :=
      Dictionary.get?_ofList_filter calls (fun text => (Url.parse? text).isSome) (Option.isSome_iff_exists.mpr read)
    constructor
    · rintro ⟨behaviour, last, rfl⟩
      have read := (mem_probing.mp (Dictionary.mem_ofList (Dictionary.mem_of_get? last))).2
      rw [kept read] at last
      obtain ⟨before, after, split, later⟩ := Dictionary.get?_ofList_eq_some_iff.mp last
      exact ⟨read, before, behaviour, after, split, later, Behaviour.isOnline_iff⟩
    · rintro ⟨read, before, behaviour, after, split, later, online⟩
      refine ⟨behaviour, ?_, ?_⟩
      · rw [kept read]
        exact Dictionary.get?_ofList_eq_some_iff.mpr ⟨before, after, split, later⟩
      · rw [Bool.eq_iff_iff, Behaviour.isOnline_iff, online]

private theorem checkAll_of_isOver [Url.Idna] (safe : IsSafe calls) (follows : round.Follows calls timeout)
    (ended : round.IsOver) :
    (checkAll timeout calls).result = some round.result ∧ (checkAll timeout calls).duration = round.now := by
  have alive : ∀ call ∈ probing calls, call.2.crash? timeout = none := by
    intro call member
    have answers := safe call (mem_probing.mp member).1
    cases found : call.2 with
    | answers delay isOnline | hangs => rfl
    | crashes delay => exact absurd found (answers delay)
  rw [checkAll_of_living alive]
  refine ⟨?_, follows.max_due ended⟩
  rw [Round.result, follows.verdicts ended]

/-- Probes that race, whatever they do and in whatever order those that are due are polled. The races end after two
steps for each of them at most, no later than the timeout, and what they find for a text depends on its last probe
alone. A check that makes these calls has that result at that time. -/
theorem finds_of_races [Url.Idna] (timeout : Nat) (calls : List (String × Behaviour))
    (safe : ∀ call ∈ calls, ∀ delay, call.2 ≠ .crashes delay) :
    (∃ steps round, Round.Reaches timeout (.start calls) steps round ∧ round.IsOver) ∧
      ∀ steps round, Round.Reaches timeout (.start calls) steps round →
        steps ≤ 2 * calls.length + 1 ∧ round.now ≤ timeout ∧
        (¬ round.IsOver → ∃ next, Round.Step timeout round next) ∧
        (round.IsOver → Finds calls timeout round.result ∧
          (checkAll timeout calls).result = some round.result ∧ (checkAll timeout calls).duration = round.now) := by
  have begun := Round.follows_start calls timeout
  refine ⟨Round.Reaches.exists_isOver .refl begun safe, fun steps round reached => ?_⟩
  have follows := begun.reaches safe reached
  refine ⟨?_, follows.now_le, fun isOpen => Round.exists_step isOpen timeout, fun ended => ⟨?_, ?_⟩⟩
  · have bounded := reached.le begun safe
    have few := Round.left_start_le calls timeout
    omega
  · rw [Round.result, follows.verdicts ended]
    exact finds_of_probing calls timeout
  · exact checkAll_of_isOver safe follows ended

/-- One host answers just in time, and one hangs; the text that is no url is left out. -/
theorem finds_of_races_hanging :
    let hosts : Hosts := [("a", .hangs), ("b", .answers 5 true)]
    let texts := ["http://a", "b", "http://b", "http://a"]
    (∀ call ∈ hosts.probes texts, ∀ delay, call.2 ≠ .crashes delay) ∧
      ∃ found, (checkAll 5 (hosts.probes texts)).result = some found ∧ found.get? "http://a" = some false ∧
        found.get? "http://b" = some true ∧ "b" ∉ found.keys := by
  intro hosts texts
  have calls : hosts.probes texts = [("http://a", .hangs), ("b", .hangs), ("http://b", .answers 5 true),
      ("http://a", .hangs)] := by decide +kernel
  have safe : ∀ call ∈ hosts.probes texts, ∀ delay, call.2 ≠ .crashes delay := by
    rw [calls]
    simp
  obtain ⟨⟨steps, round, reached, ended⟩, known⟩ := finds_of_races 5 (hosts.probes texts) safe
  obtain ⟨-, -, -, told⟩ := known steps round reached
  obtain ⟨finds, check, -⟩ := told ended
  have read : (Url.parse? "http://a").isSome ∧ (Url.parse? "http://b").isSome ∧ Url.parse? "b" = none := by
    decide +kernel
  refine ⟨safe, round.result, check, ?_, ?_, fun listed => ?_⟩
  · refine (finds.value _ _).mpr ⟨Option.isSome_iff_exists.mp read.1, [_, _, _], _, [], calls, nofun, ?_⟩
    simp
  · exact (finds.value _ _).mpr ⟨Option.isSome_iff_exists.mp read.2.1, [_, _], _, [_], calls, by decide, by simp⟩
  · obtain ⟨-, url, found⟩ := (finds.keys "b").mp listed
    rw [read.2.2] at found
    cases found

end ProxyWatch.Health
