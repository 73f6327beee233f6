import FlowRouting.Run.Timing
import FlowRouting.Scope

/-!
# The history of a run

A run goes from node to node and either skips a node or executes it. The list of these visits is
all that a run knows: what the nodes have put out, which paths were taken, what time it is, and the
events that an observer sees are views of it. The list only grows, so what has once been in a view
stays there.
-/

namespace FlowRouting

/-- What happened at a node. -/
inductive Visit where
  /-- No edge led to the node. -/
  | skipped (nodeId : String)
  /-- The node was executed: its notes, and how it ended. -/
  | executed (nodeId : String) (nodeType : String) (notes : List Note) (ending : Ending)

namespace Visit

def nodeId : Visit → String
  | .skipped id => id
  | .executed id .. => id

def duration : Visit → Nat
  | .skipped _ => 0
  | .executed _ _ _ ending => ending.duration

/-- The output of the node, if it completed. -/
def output? : Visit → Option NodeOutput
  | .executed _ _ _ ⟨_, .ok output⟩ => some output
  | _ => none

/-- The error of the node, if it failed. -/
def error? : Visit → Option NodeError
  | .executed _ _ _ ⟨_, .error e⟩ => some e
  | _ => none

def isSkipped : Visit → Bool
  | .skipped _ => true
  | .executed .. => false

end Visit

/-- The visits of a run, in order. -/
abbrev History := List Visit

namespace History

variable (h : History)

/-- The time that has passed. -/
def clock : Nat :=
  (h.map Visit.duration).foldr (· + ·) 0

/-- The outputs of the nodes that completed. -/
def outputs : OutputStore :=
  Dict.ofList (h.filterMap fun v ↦ v.output?.map fun output ↦ (v.nodeId, output.outputs))

def routes : Dict String :=
  Dict.ofList (h.filterMap fun v ↦ (v.output?.bind NodeOutput.branch).map fun b ↦ (v.nodeId, b))

def completed : List String :=
  (h.filter fun v ↦ v.output?.isSome).map Visit.nodeId

def failed : List String :=
  (h.filter fun v ↦ v.error?.isSome).map Visit.nodeId

def skipped : List String :=
  (h.filter Visit.isSkipped).map Visit.nodeId

/-- The nodes that were executed, whatever came of it. -/
def finished : List String :=
  (h.filter fun v ↦ !v.isSkipped).map Visit.nodeId

end History

/-! ## Events -/

/-- What an observer of a run sees; durations are in milliseconds. -/
inductive Event where
  | workflowStarted
  | workflowCompleted (success : Bool) (duration : Nat)
  | nodeStarted (nodeId : String) (nodeType : String)
  | nodeCompleted (nodeId : String) (outputs : Fields) (duration : Nat)
  | nodeFailed (nodeId : String) (error : NodeError)
  | nodeSkipped (nodeId : String)
  | pathSelected (nodeId : String) (pathId : String) (pathName : String) (matched : Bool)
  | noted (nodeId : String) (note : Note)

/-- The event of a path being taken, which is told by the output fields of the node. -/
def NodeOutput.selectionEvent? (nodeId : String) (output : NodeOutput) : Option Event :=
  output.branch.map fun pathId ↦
    .pathSelected nodeId pathId (((output.outputs.get? "pathName").map Value.toText).getD "")
      (((output.outputs.get? "matched").bind Value.asBool?).getD false)

/-- The events of the end of a node. -/
def Ending.events (nodeId : String) (e : Ending) : List Event :=
  match e.result with
  | .ok output =>
    .nodeCompleted nodeId output.outputs e.duration :: (output.selectionEvent? nodeId).toList
  | .error error => [.nodeFailed nodeId error]

def Visit.events : Visit → List Event
  | .skipped id => [.nodeSkipped id]
  | .executed id nodeType notes ending =>
    .nodeStarted id nodeType :: notes.map (.noted id) ++ ending.events id

end FlowRouting
