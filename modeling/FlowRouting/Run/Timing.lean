import FlowRouting.Node.Execution

/-!
# Waiting, time limits and cancellation

The clock of a run counts milliseconds and moves only while a node waits. A wait ends by itself, or
by the time limit of the node, or because the run is cancelled, whichever comes first; of two that
come at the same time the former goes first.
-/

namespace FlowRouting

/-- When a run is cancelled. -/
inductive Cancellation where
  | never
  /-- Before it begins. -/
  | beforehand
  /-- At a time of its clock, unless it is over by then. -/
  | after (ms : Nat)
deriving DecidableEq, Repr

namespace Cancellation

/-- Whether a run is found to be cancelled between two nodes. -/
def isDue (c : Cancellation) (clock : Nat) : Bool :=
  match c with
  | .never => false
  | .beforehand => true
  | .after ms => ms < clock

/-- When a wait that begins at a time is cancelled, if it lasts until then. -/
def during? (c : Cancellation) (clock : Nat) : Option Nat :=
  match c with
  | .never => none
  | .beforehand => some clock
  | .after ms => some (max ms clock)

end Cancellation

/-- How a node ended and how long it took. -/
structure Ending where
  duration : Nat
  result : Except NodeError NodeOutput

/-- What becomes of an execution that begins at a time, under a time limit and a cancellation. -/
def Execution.finish (e : Execution) (limit : Option Nat) (c : Cancellation) (clock : Nat) :
    Ending :=
  let cancelledFrom (duration : Nat) : Option Nat :=
    ((c.during? clock).map (· - clock)).filter (· < duration)
  -- A wait that is as long as the limit still ends by itself.
  match limit.filter (· < e.wait) with
  | some limit =>
    match cancelledFrom limit with
    | some duration => ⟨duration, .error .cancelled⟩
    | none => ⟨limit, .error (.timeout limit)⟩
  | none =>
    match cancelledFrom e.wait with
    | some duration => ⟨duration, .error .cancelled⟩
    | none => ⟨e.wait, e.result⟩

end FlowRouting
