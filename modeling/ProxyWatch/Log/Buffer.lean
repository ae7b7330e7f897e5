import ProxyWatch.Log.Entry

/-! The bounded buffer of the last log entries, oldest first. -/
namespace ProxyWatch

/-- The count of entries discarded has no bound here; 2^64 of them are out of reach. -/
structure EventBuffer where
  entries : List LogEntry := []
  capacity : Nat := 1000
  paused : Bool := false
  discarded : Nat := 0
  deriving Repr

namespace EventBuffer

def defaultCapacity : Nat := 1000

/-- A buffer holds at least one entry. -/
def empty (capacity : Nat) : EventBuffer := { capacity := max capacity 1 }

/-- The bytes of an entry in place: four texts and a map of three words each. -/
def entrySize : Nat := 120

/-- The most bytes that can be asked for at once. Memory that the machine lacks is not spoken of. -/
def roomLimit : Nat := 0x7fffffffffffffff

/-- There can be room for so many entries. -/
def HasRoom (capacity : Nat) : Prop := entrySize * max capacity 1 ≤ roomLimit

instance (capacity : Nat) : Decidable (HasRoom capacity) := inferInstanceAs (Decidable (_ ≤ _))

/-- Room for all entries is asked for when a buffer is made; where it cannot be had the caller panics. -/
def withCapacity? (capacity : Nat) : Option EventBuffer :=
  if HasRoom capacity then some (empty capacity) else none

/-- Appends an entry unless the buffer is paused; a full buffer drops its oldest. -/
def append (buffer : EventBuffer) (entry : LogEntry) : Bool × EventBuffer :=
  if buffer.paused then (false, { buffer with discarded := buffer.discarded + 1 })
  else
    let kept := if buffer.entries.length = buffer.capacity then buffer.entries.drop 1 else buffer.entries
    (true, { buffer with entries := kept ++ [entry] })

def pause (buffer : EventBuffer) : EventBuffer := { buffer with paused := true }

def resume (buffer : EventBuffer) : EventBuffer := { buffer with paused := false }

def togglePause (buffer : EventBuffer) : EventBuffer := { buffer with paused := !buffer.paused }

def clear (buffer : EventBuffer) : EventBuffer := { buffer with entries := [] }

def search (buffer : EventBuffer) (query : String) : List LogEntry :=
  buffer.entries.filter (·.isMatch query)

def latest (buffer : EventBuffer) : Option LogEntry := buffer.entries.getLast?

end EventBuffer
end ProxyWatch
