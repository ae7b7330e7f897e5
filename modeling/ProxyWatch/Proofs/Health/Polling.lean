import Mathlib.Data.List.Induction
import ProxyWatch.Health.Timeline

/-! A polling task beside those that work on it.

The task goes on from where it waits by any of the things that it waits for and that are there, and between any two
of its steps time goes by, its urls are set, batches end, others ask for checks, and its handle goes away. -/
namespace ProxyWatch.Health

/-- A refresh that a polling task has asked for, and the batch that it waits for. -/
structure Refresh where
  urls : List String
  batch : Nat
  deriving DecidableEq

namespace Polling

/-- Where a polling task stands: at the wait for a tick or for other urls; on its way to a refresh, before and after
it has read the urls; or at the wait for a batch. -/
inductive Point where
  | unstarted
  | resting
  | woken
  | holding (urls : List String)
  | awaiting (batch : Nat)
  | ended
  deriving DecidableEq

/-- Whether the task hears here that it is to stop. -/
def Point.isListening : Point → Bool
  | resting | holding _ | awaiting _ => true
  | unstarted | woken | ended => false

/-- What can happen next. A handle that stops the task or is dropped signals stop and closes the channel of the urls;
which of the two comes first depends on which of the two it does. -/
inductive Move where
  | wait (duration : Nat)
  | setUrls (urls : List String)
  | signalStop
  | closeUrls
  /-- Somebody else asks the poller for a check. -/
  | request (urls : List String) (reading : Nat)
  /-- The task of a batch ends. One that has died has no result. -/
  | finish (id : Nat) (result : Option (Dictionary Bool)) (reading : Nat)
  | begin
  | tick
  | hearUrls
  | hearClosed
  | hearStop
  | read
  | ask (reading : Nat)
  | resume

/-- The urls that a move sets. -/
def Move.urls? : Move → Option (List String)
  | setUrls urls => some urls
  | _ => none

/-- The urls set last, given the first ones. -/
def lastSet (first : List String) (moves : List Move) : List String :=
  moves.foldl (fun urls move => move.urls?.getD urls) first

end Polling

open Polling (Point Move lastSet)

/-- A polling task with its poller, of which it matters which batches are over, and with what its handle has done.
The refreshes are kept latest first. -/
structure Polling where
  interval : Nat
  poller : Poller
  finished : List Nat
  now : Nat
  nextTick : Nat
  urls : List String
  /-- The urls were set and have not been taken up. -/
  unseen : Bool := false
  stopped : Bool := false
  closed : Bool := false
  point : Point := .unstarted
  refreshes : List Refresh := []

namespace Polling

/-- A task that has just been spawned. -/
def start (poller : Poller) (finished : List Nat) (now : Nat) (urls : List String) : Polling :=
  { interval := poller.timing.interval, poller, finished, now, nextTick := now, urls }

/-- The poller after the task of a batch has ended. -/
def completed (poller : Poller) (id : Nat) (result : Option (Dictionary Bool)) (reading : Nat) : Poller :=
  match result with
  | some result => poller.complete id result reading
  | none => poller

/-- What comes of a move, if it can happen. -/
def perform (polling : Polling) : Move → Option Polling
  | .wait duration => some { polling with now := polling.now + duration }
  | .setUrls urls =>
    if polling.stopped ∨ polling.closed then none else some { polling with urls, unseen := true }
  | .signalStop => some { polling with stopped := true }
  | .closeUrls => some { polling with closed := true }
  | .request urls reading => some { polling with poller := (polling.poller.request urls reading).2 }
  | .finish id result reading =>
    if id < polling.poller.nextId ∧ id ∉ polling.finished then
      some { polling with poller := completed polling.poller id result reading, finished := id :: polling.finished }
    else none
  | .begin =>
    if polling.point = .unstarted then
      some { polling with
        nextTick := polling.now
        point := if polling.interval = 0 then .ended else .resting }
    else none
  | .tick =>
    if polling.point = .resting ∧ polling.nextTick ≤ polling.now then
      some { polling with
        nextTick := Timeline.tickAfter polling.nextTick polling.now polling.interval
        point := .woken }
    else none
  | .hearUrls =>
    if polling.point = .resting ∧ polling.unseen = true then
      some { polling with unseen := false, nextTick := polling.now + polling.interval, point := .woken }
    else none
  | .hearClosed =>
    if polling.point = .resting ∧ polling.unseen = false ∧ polling.closed = true then
      some { polling with point := .ended }
    else none
  | .hearStop =>
    if polling.point.isListening = true ∧ polling.stopped = true then some { polling with point := .ended }
    else none
  | .read =>
    if polling.point = .woken then some { polling with unseen := false, point := .holding polling.urls } else none
  | .ask reading =>
    match polling.point with
    | .holding urls =>
      let (batch, poller) := polling.poller.request urls reading
      some { polling with poller, refreshes := ⟨urls, batch⟩ :: polling.refreshes, point := .awaiting batch }
    | _ => none
  | .resume =>
    match polling.point with
    | .awaiting batch => if batch ∈ polling.finished then some { polling with point := .resting } else none
    | _ => none

def follow (polling : Polling) : List Move → Option Polling
  | [] => some polling
  | move :: rest => (polling.perform move).bind (follow · rest)

/-- The task waits for its next tick, and no other urls are to be taken up. -/
def IsIdle (polling : Polling) : Prop := polling.point = .resting ∧ polling.unseen = false

/-- The handle is gone, as it is after a call that stops the task. -/
def IsReleased (polling : Polling) : Prop := polling.stopped = true ∧ polling.closed = true

variable {polling next last : Polling} {move : Move} {moves earlier between later : List Move} {first : List String}

theorem ask_cases {reading : Nat} (performed : polling.perform (.ask reading) = some next) :
    ∃ urls, polling.point = .holding urls ∧ next = { polling with
      poller := (polling.poller.request urls reading).2
      refreshes := ⟨urls, (polling.poller.request urls reading).1⟩ :: polling.refreshes
      point := .awaiting (polling.poller.request urls reading).1 } := by
  simp only [Polling.perform] at performed
  split at performed
  · rename_i urls held
    cases performed
    exact ⟨urls, held, rfl⟩
  · cases performed

theorem resume_cases (performed : polling.perform .resume = some next) :
    ∃ batch ∈ polling.finished, polling.point = .awaiting batch ∧ next = { polling with point := .resting } := by
  simp only [Polling.perform] at performed
  split at performed
  · rename_i batch waits
    obtain ⟨ended, ⟨⟩⟩ := Option.ite_none_right_eq_some.mp performed
    exact ⟨batch, ended, waits, rfl⟩
  · cases performed

theorem follow_append (polling : Polling) (moves more : List Move) :
    polling.follow (moves ++ more) = (polling.follow moves).bind (follow · more) := by
  induction moves generalizing polling with
  | nil => rfl
  | cons move rest ih =>
    simp only [List.cons_append, follow]
    cases polling.perform move with
    | none => rfl
    | some next => exact ih next

theorem follow_trans (reached : polling.follow moves = some next) (later : next.follow between = some last) :
    polling.follow (moves ++ between) = some last := by
  rw [follow_append, reached, Option.bind_some, later]

theorem follow_concat (reached : polling.follow moves = some next) (performed : next.perform move = some last) :
    polling.follow (moves ++ [move]) = some last :=
  follow_trans reached (by rw [follow, performed]; rfl)

/-- What every move keeps, knowing the moves before it, all moves keep. -/
theorem follow_invariant (holds : List Move → Polling → Prop) (start : holds [] polling)
    (kept : ∀ moves move middle next, holds moves middle → middle.perform move = some next →
      holds (moves ++ [move]) next)
    (reached : polling.follow moves = some last) : holds moves last := by
  induction moves using List.reverseRecOn generalizing last with
  | nil =>
    cases reached
    exact start
  | append_singleton moves move ih =>
    rw [follow_append] at reached
    obtain ⟨middle, before, performed⟩ := Option.bind_eq_some_iff.mp reached
    obtain ⟨next, performed, same⟩ := Option.bind_eq_some_iff.mp performed
    cases same
    exact kept moves move middle last (ih before) performed

theorem lastSet_concat (first : List String) (moves : List Move) (move : Move) :
    lastSet first (moves ++ [move]) = move.urls?.getD (lastSet first moves) := by
  simp [lastSet]

theorem lastSet_append_of_none (none : ∀ move ∈ between, move.urls? = none) (moves : List Move) :
    lastSet first (moves ++ between) = lastSet first moves := by
  induction between using List.reverseRecOn with
  | nil => rw [List.append_nil]
  | append_singleton between move ih =>
    rw [← List.append_assoc, lastSet_concat, none move (by simp), Option.getD_none]
    exact ih fun other member => none other (by simp [member])

/-- The last refresh was of the urls that are set. -/
def IsCurrent (polling : Polling) : Prop := ∃ last, polling.refreshes.head? = some last ∧ last.urls = polling.urls

/-- What is known of a task wherever it stands. -/
structure Keeps (first : List String) (moves : List Move) (polling : Polling) : Prop where
  urls : polling.urls = lastSet first moves
  /-- The task holds the urls that were set last when it read them. -/
  holding : ∀ urls, polling.point = .holding urls → ∃ earlier between, moves = earlier ++ .read :: between ∧
    (∀ move ∈ between, move ≠ .read) ∧ urls = lastSet first earlier ∧
    (polling.unseen = false → ∀ move ∈ between, move.urls? = none)
  awaiting : ∀ batch, polling.point = .awaiting batch → polling.unseen = false → polling.IsCurrent
  /-- The first tick is due at once. -/
  idle : polling.IsIdle → polling.IsCurrent ∨ polling.refreshes = [] ∧ polling.nextTick ≤ polling.now
  unstarted : polling.point = .unstarted → polling.refreshes = []
  nextTick : polling.nextTick ≤ polling.now + polling.interval
  interval : polling.interval = 0 → (polling.point = .unstarted ∨ polling.point = .ended) ∧ polling.refreshes = []
  ended : polling.point = .ended → polling.stopped = true ∨ polling.closed = true ∨ polling.interval = 0

theorem keeps_start (poller : Poller) (finished : List Nat) (now : Nat) (first : List String) :
    Keeps first [] (start poller finished now first) where
  urls := rfl
  holding _ placed := by cases placed
  awaiting _ placed := by cases placed
  idle idle := by cases idle.1
  unstarted _ := rfl
  nextTick := Nat.le_add_right now _
  interval _ := ⟨.inl rfl, rfl⟩
  ended placed := by cases placed

private theorem tickAfter_le {scheduled now : Nat} (due : scheduled ≤ now) (interval : Nat) :
    Timeline.tickAfter scheduled now interval ≤ now + interval := by
  unfold Timeline.tickAfter
  split <;> omega

private theorem le_tickAfter (scheduled now interval : Nat) :
    scheduled + interval ≤ Timeline.tickAfter scheduled now interval := by
  unfold Timeline.tickAfter
  split <;> omega

/-- While the task holds urls that it has read, whatever else happens is after the reading. -/
theorem Keeps.holding_concat (keeps : Keeps first moves polling) (point : next.point = polling.point)
    (other : move ≠ .read) (unseen : next.unseen = false → polling.unseen = false ∧ move.urls? = none)
    (urls : List String) (held : next.point = .holding urls) :
    ∃ earlier between, moves ++ [move] = earlier ++ .read :: between ∧ (∀ move ∈ between, move ≠ .read) ∧
      urls = lastSet first earlier ∧ (next.unseen = false → ∀ move ∈ between, move.urls? = none) := by
  obtain ⟨earlier, between, rfl, unread, same, unset⟩ := keeps.holding urls (point ▸ held)
  refine ⟨earlier, between ++ [move], by simp, ?_, same, fun seen => ?_⟩
  · intro later member
    rcases List.mem_append.mp member with before | here
    · exact unread later before
    · exact List.mem_singleton.mp here ▸ other
  · obtain ⟨before, sets⟩ := unseen seen
    intro later member
    rcases List.mem_append.mp member with earlier | here
    · exact unset before later earlier
    · exact List.mem_singleton.mp here ▸ sets

/-- What happens beside the task, and sets no urls, leaves it where it stands. -/
theorem Keeps.beside (keeps : Keeps first moves polling) (sets : move.urls? = none) (other : move ≠ .read)
    (point : next.point = polling.point) (urls : next.urls = polling.urls) (unseen : next.unseen = polling.unseen)
    (refreshes : next.refreshes = polling.refreshes) (nextTick : next.nextTick = polling.nextTick)
    (interval : next.interval = polling.interval) (now : polling.now ≤ next.now)
    (gone : polling.stopped = true ∨ polling.closed = true → next.stopped = true ∨ next.closed = true) :
    Keeps first (moves ++ [move]) next where
  urls := by rw [lastSet_concat, sets, Option.getD_none, urls, keeps.urls]
  holding := keeps.holding_concat point other fun seen => ⟨unseen ▸ seen, sets⟩
  awaiting batch placed seen := by
    rw [IsCurrent, refreshes, urls]
    exact keeps.awaiting batch (point ▸ placed) (unseen ▸ seen)
  idle idle := by
    rw [IsCurrent, refreshes, urls, nextTick]
    exact (keeps.idle ⟨point ▸ idle.1, unseen ▸ idle.2⟩).imp_right (And.imp_right fun due => Nat.le_trans due now)
  unstarted placed := refreshes ▸ keeps.unstarted (point ▸ placed)
  nextTick := by
    rw [nextTick, interval]
    exact Nat.le_trans keeps.nextTick (Nat.add_le_add_right now _)
  interval none := by
    rw [point, refreshes]
    exact keeps.interval (interval ▸ none)
  ended placed := by
    rw [interval]
    rcases keeps.ended (point ▸ placed) with stopped | closed | none
    · exact (gone (.inl stopped)).imp_right .inl
    · exact (gone (.inr closed)).imp_right .inl
    · exact .inr (.inr none)

theorem Keeps.setUrls (keeps : Keeps first moves polling) (urls : List String) :
    Keeps first (moves ++ [.setUrls urls]) { polling with urls, unseen := true } where
  urls := (lastSet_concat first moves (.setUrls urls)).symm
  holding := keeps.holding_concat rfl (by simp) nofun
  awaiting _ _ := nofun
  idle idle := by cases idle.2
  unstarted := keeps.unstarted
  nextTick := keeps.nextTick
  interval := keeps.interval
  ended := keeps.ended

theorem Keeps.end_ (keeps : Keeps first moves polling) (sets : move.urls? = none)
    (gone : polling.stopped = true ∨ polling.closed = true) :
    Keeps first (moves ++ [move]) { polling with point := .ended } where
  urls := by rw [lastSet_concat, sets, Option.getD_none, keeps.urls]
  holding _ placed := by cases placed
  awaiting _ placed := by cases placed
  idle idle := by cases idle.1
  unstarted placed := by cases placed
  nextTick := keeps.nextTick
  interval none := ⟨.inr rfl, (keeps.interval none).2⟩
  ended _ := gone.imp_right .inl

theorem Keeps.begin (keeps : Keeps first moves polling) (unstarted : polling.point = .unstarted) :
    Keeps first (moves ++ [.begin]) { polling with
      nextTick := polling.now
      point := if polling.interval = 0 then .ended else .resting } where
  urls := by rw [lastSet_concat, keeps.urls]; rfl
  holding _ placed := by
    dsimp only at placed
    split at placed <;> cases placed
  awaiting _ placed := by
    dsimp only at placed
    split at placed <;> cases placed
  idle _ := .inr ⟨keeps.unstarted unstarted, Nat.le_refl _⟩
  unstarted _ := keeps.unstarted unstarted
  nextTick := Nat.le_add_right ..
  interval none := ⟨.inr (if_pos none), keeps.unstarted unstarted⟩
  ended placed := by
    dsimp only at placed
    split at placed
    · exact .inr (.inr ‹_›)
    · cases placed

theorem Keeps.interval_ne (keeps : Keeps first moves polling) (begun : polling.point ≠ .unstarted)
    (running : polling.point ≠ .ended) : polling.interval ≠ 0 := fun none =>
  (keeps.interval none).1.elim begun running

/-- The task wakes up for a tick or for other urls. -/
theorem Keeps.wake (keeps : Keeps first moves polling) (resting : polling.point = .resting)
    (sets : move.urls? = none) {unseen : Bool} {nextTick : Nat} (due : nextTick ≤ polling.now + polling.interval) :
    Keeps first (moves ++ [move]) { polling with unseen, nextTick, point := .woken } where
  urls := by rw [lastSet_concat, sets, Option.getD_none, keeps.urls]
  holding _ placed := by cases placed
  awaiting _ placed := by cases placed
  idle idle := by cases idle.1
  unstarted placed := by cases placed
  nextTick := due
  interval none := absurd none (keeps.interval_ne (by simp [resting]) (by simp [resting]))
  ended placed := by cases placed

theorem Keeps.read (keeps : Keeps first moves polling) (woken : polling.point = .woken) :
    Keeps first (moves ++ [.read]) { polling with unseen := false, point := .holding polling.urls } where
  urls := by rw [lastSet_concat, keeps.urls]; rfl
  holding urls placed := by
    cases placed
    exact ⟨moves, [], rfl, by simp, keeps.urls, by simp⟩
  awaiting _ placed := by cases placed
  idle idle := by cases idle.1
  unstarted placed := by cases placed
  nextTick := keeps.nextTick
  interval none := absurd none (keeps.interval_ne (by simp [woken]) (by simp [woken]))
  ended placed := by cases placed

/-- The urls that the task holds are those that were set last, unless others are still to be taken up. -/
theorem Keeps.urls_of_holding (keeps : Keeps first moves polling) {urls : List String}
    (held : polling.point = .holding urls) (seen : polling.unseen = false) : urls = polling.urls := by
  obtain ⟨earlier, between, rfl, -, same, unset⟩ := keeps.holding urls held
  rw [keeps.urls, same, lastSet_append_of_none]
  intro move member
  rcases List.mem_cons.mp member with rfl | later
  · rfl
  · exact unset seen move later

theorem Keeps.ask (keeps : Keeps first moves polling) {urls : List String} (held : polling.point = .holding urls)
    (reading batch : Nat) (poller : Poller) :
    Keeps first (moves ++ [.ask reading]) { polling with
      poller, refreshes := ⟨urls, batch⟩ :: polling.refreshes, point := .awaiting batch } where
  urls := by rw [lastSet_concat, keeps.urls]; rfl
  holding _ placed := by cases placed
  awaiting _ _ seen := ⟨_, rfl, keeps.urls_of_holding held seen⟩
  idle idle := by cases idle.1
  unstarted placed := by cases placed
  nextTick := keeps.nextTick
  interval none := absurd none (keeps.interval_ne (by simp [held]) (by simp [held]))
  ended placed := by cases placed

theorem Keeps.resume (keeps : Keeps first moves polling) {batch : Nat} (placed : polling.point = .awaiting batch) :
    Keeps first (moves ++ [.resume]) { polling with point := .resting } where
  urls := by rw [lastSet_concat, keeps.urls]; rfl
  holding _ placed := by cases placed
  awaiting _ placed := by cases placed
  idle idle := .inl (keeps.awaiting batch placed idle.2)
  unstarted placed := by cases placed
  nextTick := keeps.nextTick
  interval none := absurd none (keeps.interval_ne (by simp [placed]) (by simp [placed]))
  ended placed := by cases placed

theorem Keeps.perform (keeps : Keeps first moves polling) (performed : polling.perform move = some next) :
    Keeps first (moves ++ [move]) next := by
  cases move with
  | wait duration =>
    cases performed
    exact keeps.beside rfl (by simp) rfl rfl rfl rfl rfl rfl (Nat.le_add_right ..) id
  | signalStop =>
    cases performed
    exact keeps.beside rfl (by simp) rfl rfl rfl rfl rfl rfl (Nat.le_refl _) fun _ => .inl rfl
  | closeUrls =>
    cases performed
    exact keeps.beside rfl (by simp) rfl rfl rfl rfl rfl rfl (Nat.le_refl _) fun _ => .inr rfl
  | request urls reading =>
    cases performed
    exact keeps.beside rfl (by simp) rfl rfl rfl rfl rfl rfl (Nat.le_refl _) id
  | finish id result reading =>
    obtain ⟨-, ⟨⟩⟩ := Option.ite_none_right_eq_some.mp performed
    exact keeps.beside rfl (by simp) rfl rfl rfl rfl rfl rfl (Nat.le_refl _) fun gone => gone
  | setUrls urls =>
    obtain ⟨-, ⟨⟩⟩ := Option.ite_none_left_eq_some.mp performed
    exact keeps.setUrls urls
  | begin =>
    obtain ⟨unstarted, ⟨⟩⟩ := Option.ite_none_right_eq_some.mp performed
    exact keeps.begin unstarted
  | tick =>
    obtain ⟨⟨resting, due⟩, ⟨⟩⟩ := Option.ite_none_right_eq_some.mp performed
    exact keeps.wake resting rfl (tickAfter_le due _)
  | hearUrls =>
    obtain ⟨⟨resting, -⟩, ⟨⟩⟩ := Option.ite_none_right_eq_some.mp performed
    exact keeps.wake resting rfl (Nat.le_refl _)
  | hearClosed =>
    obtain ⟨⟨-, -, closed⟩, ⟨⟩⟩ := Option.ite_none_right_eq_some.mp performed
    exact keeps.end_ rfl (.inr closed)
  | hearStop =>
    obtain ⟨⟨-, stopped⟩, ⟨⟩⟩ := Option.ite_none_right_eq_some.mp performed
    exact keeps.end_ rfl (.inl stopped)
  | read =>
    obtain ⟨woken, ⟨⟩⟩ := Option.ite_none_right_eq_some.mp performed
    exact keeps.read woken
  | ask reading =>
    obtain ⟨urls, held, rfl⟩ := ask_cases performed
    exact keeps.ask held reading _ _
  | resume =>
    obtain ⟨batch, -, placed, rfl⟩ := resume_cases performed
    exact keeps.resume placed

theorem keeps_of_follow {poller : Poller} {finished : List Nat} {now : Nat}
    (reached : (start poller finished now first).follow moves = some polling) : Keeps first moves polling :=
  follow_invariant (Keeps first) (keeps_start poller finished now first)
    (fun _ _ _ _ keeps performed => keeps.perform performed) reached

/-- The ticks that can be taken by an instant if the first of them is due at another. -/
def ticksBy (interval limit due : Nat) : Nat := if due ≤ limit then (limit - due) / interval + 1 else 0

/-- The rounds that the task can still begin by an instant if nothing is set any more, and the one that has begun
and has not come to its refresh. -/
def roundsBy (limit : Nat) (polling : Polling) : Nat :=
  let pending := if polling.unseen then 1 else 0
  let ticks := ticksBy polling.interval limit polling.nextTick
  match polling.point with
  | .unstarted => if polling.interval = 0 then 0 else pending + ticksBy polling.interval limit polling.now
  | .resting | .awaiting _ => pending + ticks
  | .woken => 1 + ticks
  | .holding _ => 1 + pending + ticks
  | .ended => 0

theorem ticksBy_le (interval limit : Nat) {due later : Nat} (after : due ≤ later) :
    ticksBy interval limit later ≤ ticksBy interval limit due := by
  unfold ticksBy
  split
  · rename_i inTime
    rw [if_pos (Nat.le_trans after inTime)]
    exact Nat.succ_le_succ (Nat.div_le_div_right (Nat.sub_le_sub_left after limit))
  · exact Nat.zero_le _

private theorem ticksBy_succ_le {interval limit due later : Nat} (positive : 0 < interval) (inTime : due ≤ limit)
    (after : due + interval ≤ later) : ticksBy interval limit later + 1 ≤ ticksBy interval limit due := by
  unfold ticksBy
  rw [if_pos inTime]
  split
  · have fewer : (limit - later) / interval + 1 ≤ (limit - due) / interval := by
      rw [← Nat.add_div_right _ positive]
      exact Nat.div_le_div_right (by omega)
    exact Nat.succ_le_succ fewer
  · exact Nat.succ_le_succ (Nat.zero_le _)

theorem IsReleased.perform (released : polling.IsReleased) (performed : polling.perform move = some next) :
    next.IsReleased := by
  cases move <;> grind [Polling.perform, IsReleased]

/-- The refreshes asked for, and those that can still be asked for by an instant. -/
def refreshesBy (limit : Nat) (polling : Polling) : Nat := polling.refreshes.length + polling.roundsBy limit

private theorem Keeps.refreshesBy_le (keeps : Keeps first moves polling) (released : polling.IsReleased)
    (performed : polling.perform move = some next) (limit : Nat) (inTime : next.now ≤ limit) :
    next.refreshesBy limit ≤ polling.refreshesBy limit := by
  have positive (placed : polling.point = .resting) : 0 < polling.interval :=
    Nat.pos_of_ne_zero (keeps.interval_ne (by simp [placed]) (by simp [placed]))
  unfold refreshesBy
  cases move with
  | wait duration =>
    cases performed
    cases point : polling.point with
    | unstarted =>
      have fewer := ticksBy_le polling.interval limit (Nat.le_add_right polling.now duration)
      simp only [roundsBy, point]
      split <;> omega
    | resting | woken | holding | awaiting | ended =>
      simp only [roundsBy, point]
      exact Nat.le_refl _
  | signalStop | closeUrls | request =>
    cases performed
    exact Nat.le_refl _
  | setUrls urls =>
    exact absurd (.inl released.1) (Option.ite_none_left_eq_some.mp performed).1
  | finish id result reading =>
    obtain ⟨-, ⟨⟩⟩ := Option.ite_none_right_eq_some.mp performed
    exact Nat.le_refl _
  | begin =>
    obtain ⟨unstarted, ⟨⟩⟩ := Option.ite_none_right_eq_some.mp performed
    by_cases none : polling.interval = 0 <;> simp [roundsBy, unstarted, none]
  | tick =>
    obtain ⟨⟨resting, due⟩, ⟨⟩⟩ := Option.ite_none_right_eq_some.mp performed
    have fewer := ticksBy_succ_le (positive resting) (Nat.le_trans due inTime)
      (le_tickAfter polling.nextTick polling.now polling.interval)
    simp only [roundsBy, resting]
    omega
  | hearUrls =>
    obtain ⟨⟨resting, unseen⟩, ⟨⟩⟩ := Option.ite_none_right_eq_some.mp performed
    have fewer := ticksBy_le polling.interval limit keeps.nextTick
    simp only [roundsBy, resting, unseen, if_true]
    omega
  | hearClosed | hearStop =>
    obtain ⟨-, ⟨⟩⟩ := Option.ite_none_right_eq_some.mp performed
    exact Nat.le_add_right ..
  | read =>
    obtain ⟨woken, ⟨⟩⟩ := Option.ite_none_right_eq_some.mp performed
    simp [roundsBy, woken]
  | ask reading =>
    obtain ⟨urls, held, rfl⟩ := ask_cases performed
    simp only [roundsBy, held, List.length_cons]
    omega
  | resume =>
    obtain ⟨batch, -, placed, rfl⟩ := resume_cases performed
    simp only [roundsBy, placed]
    exact Nat.le_refl _

private theorem now_le_of_perform (performed : polling.perform move = some next) : polling.now ≤ next.now := by
  cases move <;> grind [Polling.perform]

/-- Once the handle is gone, no more is refreshed than what could be then. -/
theorem Keeps.refreshes_le (keeps : Keeps first moves polling) (released : polling.IsReleased)
    (reached : polling.follow later = some last) :
    last.refreshes.length ≤ polling.refreshes.length + polling.roundsBy last.now := by
  have kept := follow_invariant
    (fun more middle => Keeps first (moves ++ more) middle ∧ middle.IsReleased ∧
      ∀ limit, middle.now ≤ limit → middle.refreshesBy limit ≤ polling.refreshesBy limit)
    ⟨by simpa using keeps, released, fun _ _ => Nat.le_refl _⟩
    (fun more move middle next known performed => by
      obtain ⟨keeps, released, bound⟩ := known
      refine ⟨List.append_assoc moves more _ ▸ keeps.perform performed, released.perform performed, ?_⟩
      intro limit inTime
      exact Nat.le_trans (keeps.refreshesBy_le released performed limit inTime)
        (bound limit (Nat.le_trans (now_le_of_perform performed) inTime)))
    reached
  exact Nat.le_trans (Nat.le_add_right ..) (kept.2.2 last.now (Nat.le_refl _))

/-- The task may still ask for a refresh. -/
def MayRefresh (polling : Polling) : Prop :=
  ∃ later last, polling.follow later = some last ∧ last.refreshes.length = polling.refreshes.length + 1

theorem MayRefresh.of_perform (move : Move) (may : next.MayRefresh) (performed : polling.perform move = some next)
    (same : next.refreshes = polling.refreshes) : polling.MayRefresh := by
  obtain ⟨later, last, reached, more⟩ := may
  exact ⟨move :: later, last, by rw [follow, performed, Option.bind_some, reached], same ▸ more⟩

theorem mayRefresh_of_holding {urls : List String} (held : polling.point = .holding urls) : polling.MayRefresh :=
  ⟨[.ask 0], _, by simp only [follow, Polling.perform, held, Option.bind_some]; rfl, rfl⟩

theorem mayRefresh_of_woken (woken : polling.point = .woken) : polling.MayRefresh := by
  have performed : polling.perform .read = some { polling with unseen := false, point := .holding polling.urls } :=
    if_pos woken
  exact (mayRefresh_of_holding rfl).of_perform .read performed rfl

theorem mayRefresh_of_resting (resting : polling.point = .resting)
    (more : polling.unseen = true ∨ polling.nextTick ≤ polling.now) : polling.MayRefresh := by
  obtain unseen | due := more
  · exact (mayRefresh_of_woken rfl).of_perform .hearUrls (if_pos ⟨resting, unseen⟩) rfl
  · exact (mayRefresh_of_woken rfl).of_perform .tick (if_pos ⟨resting, due⟩) rfl

/-- A round that can be begun leads to a refresh, if the task does not wait for a batch that still runs. -/
theorem mayRefresh_of_rounds (more : 0 < polling.roundsBy polling.now)
    (ready : ∀ batch, polling.point = .awaiting batch → batch ∈ polling.finished) : polling.MayRefresh := by
  have due (rounds : 0 < (if polling.unseen then 1 else 0) +
      ticksBy polling.interval polling.now polling.nextTick) :
      polling.unseen = true ∨ polling.nextTick ≤ polling.now := by
    unfold ticksBy at rounds
    by_contra neither
    obtain ⟨seen, later⟩ := not_or.mp neither
    simp [seen, later] at rounds
  cases point : polling.point with
  | unstarted =>
    have positive : polling.interval ≠ 0 := by
      intro none
      simp [roundsBy, point, none] at more
    refine MayRefresh.of_perform .begin (mayRefresh_of_resting ?_ (.inr (Nat.le_refl _)))
      (if_pos point) rfl
    exact if_neg positive
  | resting =>
    simp only [roundsBy, point] at more
    exact mayRefresh_of_resting point (due more)
  | woken => exact mayRefresh_of_woken point
  | holding urls => exact mayRefresh_of_holding point
  | awaiting batch =>
    simp only [roundsBy, point] at more
    have resumed : polling.perform .resume = some { polling with point := .resting } := by
      simp [Polling.perform, point, ready batch point]
    refine MayRefresh.of_perform .resume ?_ resumed rfl
    exact mayRefresh_of_resting rfl (due more)
  | ended => simp [roundsBy, point] at more

/-- What a move does to the refreshes: the task asks for one of the urls that it holds. -/
theorem refreshes_of_perform (performed : polling.perform move = some next) :
    next.refreshes = polling.refreshes ∨ ∃ reading urls batch, move = .ask reading ∧
      polling.point = .holding urls ∧ polling.poller.request urls reading = (batch, next.poller) ∧
      next.refreshes = ⟨urls, batch⟩ :: polling.refreshes := by
  cases move with
  | ask reading =>
    obtain ⟨urls, held, rfl⟩ := ask_cases performed
    exact .inr ⟨reading, urls, _, rfl, held, rfl, rfl⟩
  | _ => exact .inl (by grind [Polling.perform])

/-- A refresh is of the urls that were set last when they were read. If others have been set since, they are still
to be taken up. -/
theorem Keeps.urls_of_refresh (keeps : Keeps first moves polling) {urls : List String}
    (held : polling.point = .holding urls) : ∃ earlier between, moves = earlier ++ .read :: between ∧
      (∀ move ∈ between, move ≠ .read) ∧ urls = lastSet first earlier ∧
      (urls = lastSet first moves ∨ polling.unseen = true ∧ ∃ other, .setUrls other ∈ between) := by
  obtain ⟨earlier, between, rfl, unread, same, unset⟩ := keeps.holding urls held
  refine ⟨earlier, between, rfl, unread, same, ?_⟩
  by_cases none : ∀ move ∈ between, move.urls? = none
  · refine .inl (same.trans (lastSet_append_of_none ?_ earlier).symm)
    exact List.forall_mem_cons.mpr ⟨rfl, none⟩
  · push Not at none
    obtain ⟨move, member, sets⟩ := none
    refine .inr ⟨?_, ?_⟩
    · by_contra seen
      exact sets (unset (by simpa using seen) move member)
    · cases move with
      | setUrls other => exact ⟨other, member⟩
      | _ => exact absurd rfl sets

private theorem interval_of_perform (performed : polling.perform move = some next) :
    next.interval = polling.interval := by
  cases move <;> grind [Polling.perform]

theorem interval_of_follow (reached : polling.follow moves = some last) : last.interval = polling.interval :=
  follow_invariant (fun _ middle => middle.interval = polling.interval) rfl
    (fun _ _ _ _ same performed => (interval_of_perform performed).trans same) reached

/-- A task that has ended refreshes nothing. -/
theorem refreshes_of_ended (ended : polling.point = .ended) (reached : polling.follow later = some last) :
    last.refreshes = polling.refreshes := by
  refine (follow_invariant (fun _ middle => middle.point = .ended ∧ middle.refreshes = polling.refreshes)
    ⟨ended, rfl⟩ ?_ reached).2
  rintro _ move middle next ⟨ended, same⟩ performed
  cases move <;> grind [Polling.perform, Point.isListening]

theorem Keeps.current_of_isIdle (keeps : Keeps first moves polling) (idle : polling.IsIdle) :
    (∃ last, polling.refreshes.head? = some last ∧ last.urls = lastSet first moves) ∨
      polling.refreshes = [] ∧ polling.nextTick ≤ polling.now := by
  rw [← keeps.urls]
  exact keeps.idle idle

end Polling
end ProxyWatch.Health
