import Mathlib.Data.List.DropRight
import ProxyWatch.Log.Buffer

/-! What a buffer holds after any calls, told from the calls alone.

Calls are listed latest first. A call before the last clear matters to the entries only through the
pause that it leaves behind. -/
namespace ProxyWatch.EventBuffer

/-- What can be done to a buffer. -/
inductive Call where
  | append (entry : LogEntry)
  | pause
  | resume
  | togglePause
  | clear

def perform (buffer : EventBuffer) : Call → EventBuffer
  | .append entry => (buffer.append entry).2
  | .pause => buffer.pause
  | .resume => buffer.resume
  | .togglePause => buffer.togglePause
  | .clear => buffer.clear

/-- The buffer that some calls make of a new one. -/
def after (capacity : Nat) : List Call → EventBuffer
  | [] => .empty capacity
  | call :: earlier => (after capacity earlier).perform call

/-- Whether the calls leave a buffer paused. -/
def isPausedAfter : List Call → Bool
  | [] => false
  | .pause :: _ => true
  | .resume :: _ => false
  | .togglePause :: earlier => !isPausedAfter earlier
  | .append _ :: earlier | .clear :: earlier => isPausedAfter earlier

/-- The entries appended since the last clear while the buffer was not paused, oldest first. -/
def taken : List Call → List LogEntry
  | [] | .clear :: _ => []
  | .append entry :: earlier =>
    if isPausedAfter earlier then taken earlier else taken earlier ++ [entry]
  | .pause :: earlier | .resume :: earlier | .togglePause :: earlier => taken earlier

/-- How many entries were appended while the buffer was paused. -/
def refused : List Call → Nat
  | [] => 0
  | .append _ :: earlier => refused earlier + if isPausedAfter earlier then 1 else 0
  | .pause :: earlier | .resume :: earlier | .togglePause :: earlier | .clear :: earlier =>
    refused earlier

/-- A buffer is what the calls say. -/
structure Retains (capacity : Nat) (calls : List Call) (buffer : EventBuffer) : Prop where
  entries : buffer.entries = (taken calls).rtake (max 1 capacity)
  capacity : buffer.capacity = max 1 capacity
  paused : buffer.paused = isPausedAfter calls
  discarded : buffer.discarded = refused calls

variable {capacity : Nat} {calls : List Call} {buffer : EventBuffer}

private theorem rtake_of_full (entries : List α) (room : Nat) :
    (if (entries.rtake (room + 1)).length = room + 1 then (entries.rtake (room + 1)).drop 1
      else entries.rtake (room + 1)) = entries.rtake room := by
  simp only [List.rtake, List.length_drop, List.drop_drop]
  split
  · rename_i full
    have start : entries.length - (room + 1) + 1 = entries.length - room := by omega
    rw [start]
  · rename_i spare
    have start : entries.length - (room + 1) = entries.length - room := by omega
    rw [start]

theorem Retains.start (capacity : Nat) : Retains capacity [] (.empty capacity) where
  entries := (List.rtake_nil _).symm
  capacity := Nat.max_comm capacity 1
  paused := rfl
  discarded := rfl

/-- A paused buffer counts the entry, and keeps what it holds. -/
theorem Retains.refuse (known : Retains capacity calls buffer) (paused : isPausedAfter calls = true)
    (entry : LogEntry) : Retains capacity (.append entry :: calls) (buffer.append entry).2 := by
  have refusal : (buffer.append entry).2 = { buffer with discarded := buffer.discarded + 1 } := by
    simp [append, known.paused, paused]
  rw [refusal]
  constructor
  · simpa [taken, paused] using known.entries
  · exact known.capacity
  · exact known.paused
  · simp [refused, paused, known.discarded]

/-- Any other buffer makes room for the entry, if it has to, and puts it last. -/
theorem Retains.take (known : Retains capacity calls buffer) (running : isPausedAfter calls = false)
    (entry : LogEntry) : Retains capacity (.append entry :: calls) (buffer.append entry).2 := by
  obtain ⟨room, size⟩ : ∃ room, max 1 capacity = room + 1 :=
    Nat.exists_eq_add_of_le' (Nat.le_max_left 1 capacity)
  have entries := known.entries
  have limit := known.capacity
  rw [size] at entries limit
  have taking : (buffer.append entry).2 =
      { buffer with entries := (taken calls).rtake room ++ [entry] } := by
    rw [← rtake_of_full (taken calls) room]
    simp [append, known.paused, running, entries, limit]
  rw [taking]
  constructor
  · rw [size]
    simp [taken, running, List.rtake_concat_succ]
  · exact known.capacity
  · exact known.paused
  · simp [refused, running, known.discarded]

theorem Retains.perform (known : Retains capacity calls buffer) (call : Call) :
    Retains capacity (call :: calls) (buffer.perform call) := by
  cases call with
  | append entry =>
    cases paused : isPausedAfter calls with
    | true => exact known.refuse paused entry
    | false => exact known.take paused entry
  | pause | resume => exact ⟨known.entries, known.capacity, rfl, known.discarded⟩
  | togglePause => exact ⟨known.entries, known.capacity, congrArg not known.paused, known.discarded⟩
  | clear => exact ⟨(List.rtake_nil _).symm, known.capacity, known.paused, known.discarded⟩

private theorem retains_after (capacity : Nat) (calls : List Call) :
    Retains capacity calls (after capacity calls) := by
  induction calls with
  | nil => exact Retains.start capacity
  | cons call earlier known => exact known.perform call

/-- After any calls a buffer holds the last of the entries that it took since it was last cleared, as many
as it has room for, and it has counted those that it refused because it was paused, since it was made.
A search shows what matches among the entries held, in their order. -/
theorem contents_of_calls (capacity : Nat) (calls : List Call) :
    let buffer := after capacity calls
    buffer.entries = (taken calls).rtake (max 1 capacity) ∧
    (∀ entry, (buffer.append entry).1 = true ↔ isPausedAfter calls = false) ∧
    buffer.discarded = refused calls ∧
    (∀ query, (buffer.search query).Sublist buffer.entries ∧
      buffer.search query = ((taken calls).rtake (max 1 capacity)).filter (·.isMatch query)) ∧
    buffer.entries.length ≤ max 1 capacity ∧ buffer.entries <:+ taken calls := by
  intro buffer
  have known := retains_after capacity calls
  refine ⟨known.entries, ?_, known.discarded, ?_, ?_, ?_⟩
  · intro entry
    rw [← known.paused, append]
    cases buffer.paused <;> simp
  · intro query
    refine ⟨List.filter_sublist, ?_⟩
    rw [← known.entries]
    rfl
  · rw [known.entries, List.rtake, List.length_drop]
    omega
  · rw [known.entries]
    exact List.drop_suffix _ _

/-- A buffer that was asked for no room has room for one entry, and being cleared while it is paused
leaves it paused. -/
example (first second third : LogEntry) :
    (after 0 [.append second, .append first]).entries = [second] ∧
      (after 2 [.append third, .clear, .append second, .pause, .append first]).entries = [] ∧
      (after 2 [.append third, .clear, .append second, .pause, .append first]).discarded = 2 :=
  ⟨rfl, rfl, rfl⟩

end ProxyWatch.EventBuffer
