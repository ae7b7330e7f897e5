import Mathlib
import ProxyWatch.Proofs.Stream.Interleaving
import ProxyWatch.Proofs.Stream.ViewHistory

/-! What a stream shows while it is shown as connected.

Messages come only while a connection is open. The document is that of the connection's own payloads,
or it was held when the connection was opened and has only been patched since: nothing marks it as
stale then, although patches may have been missed in between. -/
namespace ProxyWatch.Stream

/-- What has been called back before a connection was last opened, and what since. -/
def lastOpened? : List Callback → Option (List Callback × List Callback)
  | [] => none
  | callback :: rest =>
    match lastOpened? rest with
    | some (earlier, current) => some (callback :: earlier, current)
    | none => if callback = .opened then some ([], rest) else none

/-- A connection has been opened and not been closed since. -/
def IsOpen (callbacks : List Callback) : Prop :=
  ∃ earlier current, lastOpened? callbacks = some (earlier, current) ∧
    ∀ reason, .closed reason ∉ current

/-- Every message comes while a connection is open. -/
def MessagesWhileOpen (callbacks : List Callback) : Prop :=
  ∀ earlier payload later, callbacks = earlier ++ .message payload :: later → IsOpen earlier

variable {callbacks earlier current : List Callback} {callback : Callback} {payload : String}

private theorem lastOpened?_concat_opened (callbacks : List Callback) :
    lastOpened? (callbacks ++ [.opened]) = some (callbacks, []) := by
  induction callbacks with
  | nil => rfl
  | cons head rest ih => simp [lastOpened?, ih]

private theorem lastOpened?_concat_other (callbacks : List Callback) (other : callback ≠ .opened) :
    lastOpened? (callbacks ++ [callback]) =
      (lastOpened? callbacks).map fun (earlier, current) => (earlier, current ++ [callback]) := by
  induction callbacks with
  | nil => simp [lastOpened?, other]
  | cons head rest ih =>
    simp only [List.cons_append, lastOpened?, ih]
    cases lastOpened? rest with
    | some found => rfl
    | none =>
      by_cases opens : head = .opened
      · simp [opens]
      · simp [opens]

private theorem eq_of_lastOpened? (found : lastOpened? callbacks = some (earlier, current)) :
    callbacks = earlier ++ .opened :: current := by
  induction callbacks generalizing earlier with
  | nil => cases found
  | cons head rest ih =>
    simp only [lastOpened?] at found
    split at found
    · rename_i before since later
      cases found
      rw [ih later, List.cons_append]
    · split at found
      · rename_i opens
        cases found
        rw [opens, List.nil_append]
      · cases found

theorem isOpen_concat_opened (callbacks : List Callback) : IsOpen (callbacks ++ [.opened]) :=
  ⟨callbacks, [], lastOpened?_concat_opened callbacks, by simp⟩

theorem IsOpen.concat (isOpen : IsOpen callbacks) (unopened : callback ≠ .opened)
    (unclosed : ∀ reason, callback ≠ .closed reason) : IsOpen (callbacks ++ [callback]) := by
  obtain ⟨earlier, current, found, held⟩ := isOpen
  refine ⟨earlier, current ++ [callback], ?_, ?_⟩
  · rw [lastOpened?_concat_other callbacks unopened, found]
    rfl
  · intro reason member
    rcases List.mem_append.mp member with old | last
    · exact held reason old
    · exact unclosed reason (List.mem_singleton.mp last).symm

theorem messagesWhileOpen_concat :
    MessagesWhileOpen (callbacks ++ [callback]) ↔
      MessagesWhileOpen callbacks ∧ ∀ payload, callback = .message payload → IsOpen callbacks := by
  constructor
  · intro spoken
    refine ⟨?_, ?_⟩
    · rintro earlier payload later rfl
      exact spoken earlier payload (later ++ [callback]) (by simp)
    · rintro payload rfl
      exact spoken callbacks payload [] rfl
  · rintro ⟨spoken, last⟩ earlier payload later same
    obtain ⟨-, rfl, rfl⟩ | ⟨later, rfl, rfl⟩ := concat_eq_append_cons same
    · exact last payload rfl
    · exact spoken earlier payload later rfl

/-- Where a driver stands while a connection is served. -/
def Point.isServing : Point → Bool
  | .reading | .delivering _ => true
  | _ => false

namespace Driver
variable {driver : Driver} {calls : List Callback}

/-- The messages so far came while a connection was open, and one is open where it is served. -/
structure Speaks (driver : Driver) (calls : List Callback) : Prop where
  spoken : MessagesWhileOpen calls
  served : driver.point.isServing = true → IsOpen calls

theorem Speaks.tell (speaks : driver.Speaks calls) (link : Link) {callback : Callback} {next : Point}
    (allowed : ∀ payload, callback = .message payload → IsOpen calls)
    (served : next.isServing = true → IsOpen (calls ++ [callback])) :
    (driver.tell link callback next).1.Speaks (calls ++ (driver.tell link callback next).2.2) := by
  unfold Driver.tell
  split
  · exact ⟨messagesWhileOpen_concat.mpr ⟨speaks.spoken, allowed⟩, served⟩
  · rw [List.append_nil]
    exact ⟨speaks.spoken, fun serving => by cases serving⟩

theorem Speaks.silent (speaks : driver.Speaks calls) {next : Driver}
    (unserved : next.point.isServing = false) : next.Speaks (calls ++ []) := by
  rw [List.append_nil]
  exact ⟨speaks.spoken, fun serving => by simp [unserved] at serving⟩

theorem Speaks.advance (speaks : driver.Speaks calls) (link : Link) :
    (driver.advance link).1.Speaks (calls ++ (driver.advance link).2.2) := by
  unfold Driver.advance
  cases point : driver.point with
  | starting | accepted => exact speaks.silent rfl
  | greeting =>
    exact speaks.tell link (by simp) fun _ => isOpen_concat_opened calls
  | delivering payload =>
    have isOpen : IsOpen calls := speaks.served (by rw [point]; rfl)
    exact speaks.tell link (fun _ _ => isOpen) fun _ => isOpen.concat (by simp) (by simp)
  | dropping reason => exact speaks.tell link (by simp) fun serving => by cases serving
  | retrying attempt delay => exact speaks.tell link (by simp) fun serving => by cases serving
  | abandoning attempts => exact speaks.tell link (by simp) fun serving => by cases serving
  | lost =>
    cases decided : driver.reconnector.failed with
    | mk decision reconnector => cases decision <;> exact speaks.silent rfl
  | connecting | reading | waiting | finished =>
    rw [List.append_nil]
    exact speaks

theorem Speaks.receive (speaks : driver.Speaks calls) (signal : Signal) :
    (driver.receive signal).Speaks calls := by
  refine ⟨speaks.spoken, fun serving => speaks.served ?_⟩
  cases point : driver.point with
  | reading | delivering => rfl
  | connecting dialled =>
    cases dialled <;> cases signal <;> simp [Driver.receive, point, Point.isServing] at serving
  | waiting delay => cases signal <;> simp [Driver.receive, point, Point.isServing] at serving
  | starting | accepted | greeting | dropping | lost | retrying | abandoning | finished =>
    simp [Driver.receive, point, Point.isServing] at serving

end Driver

namespace Run
variable {run next : Run} {move : Move} {moves : List Move}

private theorem perform_speaks (speaks : run.driver.Speaks run.calls) (performed : run.perform move = some next) :
    next.driver.Speaks next.calls := by
  cases move with
  | drive =>
    simp only [perform, Option.ite_none_left_eq_some, Option.some.injEq] at performed
    obtain ⟨-, rfl⟩ := performed
    rw [calls_advance]
    exact speaks.advance run.link
  | dial =>
    simp only [perform, Option.ite_none_right_eq_some, Option.some.injEq] at performed
    obtain ⟨-, rfl⟩ := performed
    exact speaks.receive .dial
  | hear =>
    simp only [perform, Option.ite_none_right_eq_some, Option.map_eq_some_iff] at performed
    obtain ⟨-, ⟨due, signal, outlook⟩, -, rfl⟩ := performed
    exact speaks.receive signal
  | stop =>
    simp only [perform, Option.ite_none_right_eq_some, Option.some.injEq] at performed
    obtain ⟨-, rfl⟩ := performed
    exact speaks.receive .stop
  | detach | conclude | signalStop =>
    cases performed
    exact speaks

/-- In every run, closed or not, messages come only while a connection is open. -/
theorem messagesWhileOpen {policy : Policy} {scripts : List Script}
    (reached : (start policy scripts).follow moves = some run) :
    MessagesWhileOpen run.calls := by
  have initial : (start policy scripts).driver.Speaks (start policy scripts).calls := by
    refine ⟨?_, fun serving => by cases serving⟩
    intro earlier payload later same
    simp [calls, start] at same
  exact (follow_invariant (fun run => run.driver.Speaks run.calls)
    (fun _ _ _ _ speaks performed => perform_speaks speaks performed) initial reached).spoken

end Run

namespace ConnectionFeed

private theorem isOpen_of_isLive (spoken : MessagesWhileOpen callbacks)
    (live : (after callbacks).view.status.isLive = true) : IsOpen callbacks := by
  induction callbacks using List.reverseRecOn with
  | nil => cases live
  | append_singleton earlier callback _ =>
    cases callback with
    | opened => exact isOpen_concat_opened earlier
    | message payload =>
      have isOpen := (messagesWhileOpen_concat.mp spoken).2 payload rfl
      exact isOpen.concat (by simp) (by simp)
    | closed reason =>
      have status : (after (earlier ++ [.closed reason])).view.status = .afterClose reason := by
        simp [after, react, setStatus_eq]
      rw [status] at live
      cases reason <;> cases live
    | reconnecting attempt =>
      have status :
          (after (earlier ++ [.reconnecting attempt])).view.status = .reconnecting attempt := by
        simp [after, react, setStatus_eq]
      rw [status] at live
      cases live

/-- A stream that is shown as connected has an open connection. The document shown is the one that the
messages of this connection lead to, or else they have brought no snapshot, and it is the document that
was shown when the connection was opened, with the patches of this connection. -/
theorem document_of_connected (spoken : MessagesWhileOpen callbacks)
    (connected : (after callbacks).view.status = .connected)
    (shown : (after callbacks).view.document = some document) :
    ∃ earlier current, lastOpened? callbacks = some (earlier, current) ∧
      (∀ reason, .closed reason ∉ current) ∧
      (documentOf (payloads current) = some document ∨
        lastSnapshot? (payloads current) = none ∧
        ∃ carried, (after earlier).view.document = some carried ∧
          (payloads current).foldl patched carried = document) := by
  obtain ⟨earlier, current, found, held⟩ := isOpen_of_isLive spoken (by rw [connected]; rfl)
  refine ⟨earlier, current, found, held, ?_⟩
  rw [(reflects_after callbacks).document, eq_of_lastOpened? found] at shown
  rw [(reflects_after earlier).document]
  have split : payloads (earlier ++ .opened :: current) = payloads earlier ++ payloads current := by
    rw [payloads_append]
    rfl
  rw [split, documentOf_append] at shown
  cases own : documentOf (payloads current) with
  | some document' =>
    rw [own] at shown
    exact .inl shown
  | none =>
    rw [own, Option.none_or] at shown
    exact .inr ⟨Option.map_eq_none_iff.mp own, Option.map_eq_some_iff.mp shown⟩

/-- A snapshot and a patch on one connection. -/
theorem document_of_connected_patched :
    let full := "\x7b\"full\":\x7b\x7d\x7d"
    let patch := "\x7b\"patch\":[]\x7d"
    let callbacks : List Callback := [.opened, .message full, .message patch]
    (MessagesWhileOpen callbacks ∧ (after callbacks).view.status = .connected ∧
      (after callbacks).view.document = some (.object [])) ∧
    ∃ earlier current, lastOpened? callbacks = some (earlier, current) ∧
      (∀ reason, .closed reason ∉ current) ∧
      (documentOf (payloads current) = some (.object []) ∨
        lastSnapshot? (payloads current) = none ∧
        ∃ carried, (after earlier).view.document = some carried ∧
          (payloads current).foldl patched carried = .object []) := by
  intro full patch callbacks
  have spoken : MessagesWhileOpen callbacks := by
    have opened := isOpen_concat_opened []
    have first : MessagesWhileOpen [.opened, .message full] :=
      messagesWhileOpen_concat.mpr ⟨messagesWhileOpen_concat.mpr ⟨by simp [MessagesWhileOpen], by simp⟩,
        fun _ _ => opened⟩
    exact messagesWhileOpen_concat.mpr ⟨first, fun _ _ => opened.concat (by simp) (by simp)⟩
  have connected : (after callbacks).view.status = .connected := by decide +kernel
  have shown : (after callbacks).view.document = some (.object []) := by cbv
  exact ⟨⟨spoken, connected, shown⟩, document_of_connected spoken connected shown⟩

/-- A stream that drops after its snapshot is shown as connected again as soon as it is reopened. -/
theorem connected_without_snapshot :
    let full := "\x7b\"full\":\x7b\x7d\x7d"
    let scripts : List Script :=
      [{ outcome := .serve [.message full] false }, { outcome := .serve [] true }]
    let moves : List Move :=
      [.drive, .dial, .hear, .drive, .drive, .hear, .drive, .hear, .drive, .drive, .drive, .hear,
        .drive, .dial, .hear, .drive, .drive]
    let callbacks : List Callback :=
      [.opened, .message full, .closed .remote, .reconnecting 1, .opened]
    ((Run.start {} scripts).follow moves).map Run.calls = some callbacks ∧
      (after callbacks).view.status = .connected ∧
      (after callbacks).view.document = some (.object []) ∧
      ¬ ∃ earlier current, lastOpened? callbacks = some (earlier, current) ∧
        documentOf (payloads current) = some (.object []) := by
  intro full scripts moves callbacks
  refine ⟨by decide +kernel, by decide +kernel, by cbv, ?_⟩
  rintro ⟨earlier, current, found, own⟩
  cases found
  cases own

end ConnectionFeed
end ProxyWatch.Stream
