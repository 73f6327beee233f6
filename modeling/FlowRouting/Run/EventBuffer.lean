import FlowRouting.Run.Basic

/-!
# Buffered events

An observer reads the events of a run from a buffer of bounded size, which is a power of two. If
more events come than the buffer holds, the oldest ones are lost, and the observer is told how many.
-/

namespace FlowRouting

/-- The least power of two that is at least as large as a size. -/
def bufferCapacity (size : Nat) : Nat :=
  size.nextPowerOfTwo

/-- What an observer reads from a buffer. -/
structure BufferedEvents where
  /-- How many events were lost. -/
  lost : Nat
  events : List Event

/-- The events that are left of a sequence in a buffer of a size. -/
def buffered (size : Nat) (events : List Event) : BufferedEvents :=
  let lost := events.length - bufferCapacity size
  ⟨lost, events.drop lost⟩

theorem length_buffered_le (size : Nat) (events : List Event) :
    (buffered size events).events.length ≤ bufferCapacity size := by
  simp only [buffered, List.length_drop]
  omega

theorem lost_add_length_buffered (size : Nat) (events : List Event) :
    (buffered size events).lost + (buffered size events).events.length = events.length := by
  simp only [buffered, List.length_drop]
  omega

end FlowRouting
