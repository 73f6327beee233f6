import FlowRouting.Node.Execution
import FlowRouting.Validation.Basic

/-!
# Plans

A plan is a workflow that has passed all checks: its graph, and for every node, in topological
order, what it has to do. Only a plan can be run.
-/

namespace FlowRouting

/-- Why a run comes to no result. -/
inductive RunError where
  | node (error : NodeError)
  | workflow (error : WorkflowError)
  /-- A condition could not choose a path. -/
  | routing (nodeId : String) (error : EvalError)
  /-- A node failed, and its failure stops the run. -/
  | nodeFailed (nodeId : String) (error : NodeError)
  | cancelled
deriving DecidableEq

def RunError.message : RunError → String
  | .node error => "Node error: " ++ error.message
  | .workflow error => "Workflow error: " ++ error.message
  | .routing nodeId error => "Routing failed at node '" ++ nodeId ++ "': " ++ error.message
  | .nodeFailed nodeId error =>
    "Execution error: Node " ++ nodeId ++ " failed: " ++ error.message
  | .cancelled => "Workflow run cancelled"

/-- A node of a plan. -/
structure Step where
  node : NamedNode
  task : Task

def Step.id (s : Step) : String :=
  s.node.id

/-- The nodes to run in topological order, with the edges and settings that decide how. -/
structure Plan where
  graph : Graph
  steps : List Step
  settings : Settings

/-- Checks a node on its own: whether it has a task, and whether its configuration is fit for it. -/
def NodeSpec.check (spec : NodeSpec) : Except RunError Unit := do
  let task ← spec.task.mapError RunError.workflow
  (task.checkConfig spec.config).mapError RunError.node

/-- The plan of a workflow: it must have a graph, the graph must pass its checks, and so must every
node, in the order of the author. -/
def Plan.ofWorkflow (w : Workflow) : Except RunError Plan := do
  let graph ← (Graph.build w).mapError RunError.workflow
  let _ ← (graph.validate Schemas.standard).mapError RunError.workflow
  -- In the order of the author; the steps below come in topological order.
  w.nodes.forM NodeSpec.check
  let steps ← graph.nodes.mapM fun node ↦
    (node.spec.task.map fun task ↦ ⟨node, task⟩).mapError RunError.workflow
  return ⟨graph, steps, w.settings⟩

end FlowRouting
