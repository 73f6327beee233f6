import FlowRouting.Condition.Basic
import FlowRouting.Uuid

/-!
# Workflows

A workflow is a list of nodes, a list of edges between them, and settings for its runs. What a node
does is decided by its type and its configuration, which is a record of plain values.
-/

namespace FlowRouting

/-- A node as its author wrote it. -/
structure NodeSpec where
  id : String
  nodeType : String
  displayName : Option String := none
  config : Fields := []

/-- An edge from one node to another.

On an edge that leaves a condition the source handle names the path that leads over the edge. On
any other edge with both handles, the output field of the source under the source handle becomes
the input of the target under the target handle. -/
structure Edge where
  source : String
  target : String
  sourceHandle : Option String := none
  targetHandle : Option String := none
deriving DecidableEq, Repr

/-- What becomes of a run when a node fails. -/
inductive ErrorHandling where
  | stopWorkflow
  | continueOnError
deriving DecidableEq, Repr

/-- The settings of a workflow. -/
structure Settings where
  /-- The time that a single node may take, in milliseconds. -/
  maxExecutionTimeMs : Option UInt64 := none
  onError : ErrorHandling := .stopWorkflow
  routing : RoutingMode := .strict
deriving DecidableEq, Repr

/-- A workflow. -/
structure Workflow where
  id : Uuid
  name : String
  description : Option String := none
  nodes : List NodeSpec := []
  edges : List Edge := []
  settings : Settings := {}

/-- The type of the nodes that route a run. -/
def conditionType : String :=
  "condition"

namespace NodeSpec

def isCondition (spec : NodeSpec) : Bool :=
  spec.nodeType == conditionType

/-- The text in a field of the configuration. -/
def configText? (spec : NodeSpec) (key : String) : Option String :=
  (spec.config.get? key).bind Value.asText?

/-- The node with an entry put into its configuration. -/
def withConfig (spec : NodeSpec) (key : String) (value : Value) : NodeSpec :=
  { spec with config := Dict.insert spec.config key value }

end NodeSpec

namespace Workflow

/-- The workflow with a node behind its nodes. -/
def addNode (w : Workflow) (spec : NodeSpec) : Workflow :=
  { w with nodes := w.nodes ++ [spec] }

/-- The workflow with an edge behind its edges. -/
def addEdge (w : Workflow) (edge : Edge) : Workflow :=
  { w with edges := w.edges ++ [edge] }

def findNode? (w : Workflow) (id : String) : Option NodeSpec :=
  w.nodes.find? fun spec ↦ spec.id == id

/-- The nodes with the first one that has an id changed. -/
def updateFirst (id : String) (f : NodeSpec → NodeSpec) : List NodeSpec → List NodeSpec
  | [] => []
  | spec :: specs => if spec.id == id then f spec :: specs else spec :: updateFirst id f specs

/-- The workflow with an entry put into the configuration of its first node with an id. -/
def setConfig (w : Workflow) (id key : String) (value : Value) : Workflow :=
  { w with nodes := updateFirst id (·.withConfig key value) w.nodes }

end Workflow

end FlowRouting
