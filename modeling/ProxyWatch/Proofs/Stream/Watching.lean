import ProxyWatch.Proofs.Stream.Correspondence

/-! Streams together with a consumer that waits to be notified.

A consumer that looks at the state only when something has been published relies on a publication after
the state was closed. If there is one it ends, in whichever order the stream and it take their turns. -/
namespace ProxyWatch.Stream

/-- Whether a stream has given up. -/
def State.isExhausted : State → Bool
  | .closed (.exhausted _) => true
  | _ => false

theorem State.isClosed_of_isExhausted {state : State} (exhausted : state.isExhausted = true) :
    state.isClosed = true := by
  unfold isExhausted at exhausted
  split at exhausted
  · rfl
  · cases exhausted

/-- A consumer waits to be notified, looks at the state then, and ends if it is closed. -/
inductive Watcher where
  | waiting
  | looking
  | ended
  deriving DecidableEq, Repr

/-- A stream with a consumer. The publications are kept as the states at which they were made, latest
first; the consumer is notified of all that it has not seen at once. -/
structure Watched (Feed : Type) where
  run : Run
  feed : Feed
  published : List State := []
  unseen : Bool := false
  watcher : Watcher := .waiting

inductive Turn where
  | stream (move : Move)
  | wake
  | look
  deriving DecidableEq, Repr

namespace Watched
variable {Feed : Type} (react : Feed → Callback → Bool × Feed)

def hear (watched : Watched Feed) (callback : Callback) : Watched Feed :=
  let (isPublished, feed) := react watched.feed callback
  if isPublished then
    { watched with feed, published := watched.run.link.state :: watched.published, unseen := true }
  else { watched with feed }

def moveOn (watched : Watched Feed) (next : Run) : Watched Feed :=
  (Live.callbacksSince watched.run next).foldl (hear react) { watched with run := next }

def wake (watched : Watched Feed) : Watched Feed :=
  if watched.watcher = .waiting ∧ watched.unseen = true then
    { watched with unseen := false, watcher := .looking }
  else watched

def look (watched : Watched Feed) : Watched Feed :=
  if watched.watcher = .looking then
    { watched with watcher := if watched.run.link.state.isClosed then .ended else .waiting }
  else watched

/-- A turn that is not possible changes nothing. -/
def perform (watched : Watched Feed) : Turn → Watched Feed
  | .stream move =>
    match watched.run.perform move with
    | some next => watched.moveOn react next
    | none => watched
  | .wake => watched.wake
  | .look => watched.look

def follow (watched : Watched Feed) (turns : List Turn) : Watched Feed :=
  turns.foldl (perform react) watched

/-- What can come of a stream and its consumer, in any order of their turns. -/
inductive Reached (display : Display Feed) (opened : Watched Feed) : Watched Feed → Prop where
  | start : Reached display opened opened
  | turned {watched} (turn : Turn) (reached : Reached display opened watched) :
      Reached display opened (watched.perform display.react turn)
  | adjusted {watched change} (reached : Reached display opened watched)
      (adjusts : display.adjusts change) :
      Reached display opened { watched with feed := change watched.feed }

/-- Something was published after the stream had given up. -/
def IsAnnounced (watched : Watched Feed) : Prop :=
  ∃ state ∈ watched.published, state.isExhausted = true

variable {react : Feed → Callback → Bool × Feed} {display : Display Feed}
  {watched opened : Watched Feed} {next : Run} {move : Move}

theorem moveOn_of_silent (silent : next.calls = watched.run.calls) :
    watched.moveOn react next = { watched with run := next } := by
  rw [moveOn, Live.callbacksSince_of_silent silent]
  rfl

theorem moveOn_of_told {callback : Callback} (told : next.calls = watched.run.calls ++ [callback]) :
    watched.moveOn react next = ({ watched with run := next } : Watched Feed).hear react callback := by
  rw [moveOn, Live.callbacksSince_eq told]
  rfl

theorem run_hear (watched : Watched Feed) (callback : Callback) :
    (watched.hear react callback).run = watched.run := by
  unfold hear
  dsimp only
  split <;> rfl

theorem feed_hear (watched : Watched Feed) (callback : Callback) :
    (watched.hear react callback).feed = (react watched.feed callback).2 := by
  unfold hear
  dsimp only
  split <;> rfl

theorem isAnnounced_hear_iff (watched : Watched Feed) (callback : Callback) :
    (watched.hear react callback).IsAnnounced ↔ watched.IsAnnounced ∨
      (react watched.feed callback).1 = true ∧ watched.run.link.state.isExhausted = true := by
  unfold hear IsAnnounced
  dsimp only
  split
  · rename_i published
    simp [published, or_comm]
  · rename_i unpublished
    simp [unpublished]

theorem run_moveOn (watched : Watched Feed) (next : Run) : (watched.moveOn react next).run = next := by
  have kept (callbacks : List Callback) : ∀ watched : Watched Feed,
      (callbacks.foldl (hear react) watched).run = watched.run := by
    induction callbacks with
    | nil => exact fun _ => rfl
    | cons callback rest ih => exact fun watched => (ih _).trans (run_hear watched callback)
  exact kept _ _

/-- Once something was published after the stream had given up, the consumer is looking or will look. -/
def IsAttentive (watched : Watched Feed) : Prop :=
  watched.IsAnnounced →
    watched.run.link.state.isExhausted = true ∧ (watched.unseen = true ∨ watched.watcher ≠ .waiting)

namespace IsAttentive

theorem hear (attentive : watched.IsAttentive) (callback : Callback) :
    (watched.hear react callback).IsAttentive := by
  intro announced
  obtain earlier | ⟨published, exhausted⟩ := (isAnnounced_hear_iff watched callback).mp announced
  · obtain ⟨exhausted, pending⟩ := attentive earlier
    refine ⟨(congrArg (·.link.state.isExhausted) (run_hear watched callback)).trans exhausted, ?_⟩
    unfold Watched.hear
    dsimp only
    split
    · exact .inl rfl
    · exact pending
  · refine ⟨(congrArg (·.link.state.isExhausted) (run_hear watched callback)).trans exhausted, .inl ?_⟩
    simp [Watched.hear, published]

theorem moveOn (attentive : watched.IsAttentive) (performed : watched.run.perform move = some next) :
    (watched.moveOn react next).IsAttentive := by
  have told (callbacks : List Callback) : ∀ watched : Watched Feed, watched.IsAttentive →
      (callbacks.foldl (Watched.hear react) watched).IsAttentive := by
    induction callbacks with
    | nil => exact fun _ attentive => attentive
    | cons callback rest ih => exact fun watched attentive => ih _ (attentive.hear callback)
  refine told _ _ fun announced => ?_
  obtain ⟨exhausted, pending⟩ := attentive announced
  have final := Run.perform_of_isClosed performed (State.isClosed_of_isExhausted exhausted)
  exact ⟨final ▸ exhausted, pending⟩

theorem wake (attentive : watched.IsAttentive) : watched.wake.IsAttentive := by
  unfold Watched.wake
  split
  · exact fun announced => ⟨(attentive announced).1, .inr (by simp)⟩
  · exact attentive

theorem look (attentive : watched.IsAttentive) : watched.look.IsAttentive := by
  unfold Watched.look
  split
  · intro announced
    have exhausted := (attentive announced).1
    exact ⟨exhausted, .inr (by simp [State.isClosed_of_isExhausted exhausted])⟩
  · exact attentive

/-- A consumer that is told ends as soon as it has had its turns. -/
theorem ends (attentive : watched.IsAttentive) (announced : watched.IsAnnounced) :
    watched.look.wake.look.watcher = .ended := by
  obtain ⟨exhausted, pending⟩ := attentive announced
  have closed := State.isClosed_of_isExhausted exhausted
  cases watcher : watched.watcher with
  | ended | looking => simp [Watched.look, Watched.wake, watcher, closed]
  | waiting =>
    have unseen : watched.unseen = true := pending.resolve_right (by simp [watcher])
    simp [Watched.look, Watched.wake, watcher, unseen, closed]

end IsAttentive

theorem Reached.attentive (reached : Reached display opened watched) (start : opened.IsAttentive) :
    watched.IsAttentive := by
  induction reached with
  | start => exact start
  | adjusted _ _ attentive => exact attentive
  | @turned watched turn _ attentive =>
    cases turn with
    | wake => exact attentive.wake
    | look => exact attentive.look
    | stream move =>
      unfold perform
      dsimp only
      split
      · rename_i performed
        exact attentive.moveOn performed
      · exact attentive

theorem Reached.follow (reached : Reached display opened watched) (turns : List Turn) :
    Reached display opened (watched.follow display.react turns) := by
  induction turns generalizing watched with
  | nil => exact reached
  | cons turn rest ih => exact ih (reached.turned turn)

/-- A consumer that waits with nothing left to see when the driver has finished. -/
structure IsForsaken (watched : Watched Feed) : Prop where
  finished : watched.run.driver.point = .finished
  waiting : watched.watcher = .waiting
  seen : watched.unseen = false

theorem IsForsaken.perform (forsaken : watched.IsForsaken) (turn : Turn) :
    (watched.perform react turn).IsForsaken := by
  obtain ⟨finished, waiting, seen⟩ := forsaken
  cases turn with
  | wake => simpa [Watched.perform, wake, seen] using (⟨finished, waiting, seen⟩ : watched.IsForsaken)
  | look => simpa [Watched.perform, look, waiting] using (⟨finished, waiting, seen⟩ : watched.IsForsaken)
  | stream move =>
    cases driven : move.isClosing with
    | false =>
      have halted := Run.isDone_of_finished finished move driven
      rw [Watched.perform, halted]
      exact ⟨finished, waiting, seen⟩
    | true =>
      cases move with
      | drive | dial | hear | stop => cases driven
      | detach | conclude | signalStop =>
        simp only [Watched.perform, Run.perform]
        rw [moveOn_of_silent (by rfl)]
        exact ⟨finished, waiting, seen⟩

/-- Such a consumer waits forever. -/
theorem IsForsaken.follow (forsaken : watched.IsForsaken) (turns : List Turn) :
    (watched.follow react turns).IsForsaken := by
  induction turns generalizing watched with
  | nil => exact forsaken
  | cons turn rest ih => exact ih (forsaken.perform turn)

end Watched
end ProxyWatch.Stream
