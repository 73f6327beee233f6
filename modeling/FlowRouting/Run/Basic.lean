import FlowRouting.Run.History
import FlowRouting.Run.Plan

/-!
# Runs

A run visits the nodes of a plan in topological order. A node with incoming edges is skipped unless
one of them is *active*: its source was executed, and if the source took a path, then the edge has
no source handle or the one of that path. The run stops early if it is cancelled, if a condition
cannot choose, or if a node fails whose failure is not to be passed over.
-/

namespace FlowRouting

/-- Whether an edge leads on, after the visits of a history. -/
def Edge.isActive (e : Edge) (h : History) : Bool :=
  h.finished.contains e.source &&
    match h.routes.get? e.source, e.sourceHandle with
    | some branch, some handle => handle == branch
    | _, _ => true

/-! ## Inputs -/

/-- The inputs of a node without incoming edges: the fields of the run input, or the run input as a
whole under one name. -/
def rootInputs : Value → Fields
  | .object fields => fields
  | .null => []
  | v => [("input", v)]

/-- The input that an edge carries: an output field of a source that took no path, under the name of
an input of the target. -/
def Edge.carried? (e : Edge) (h : History) : Option (String × Value) := do
  if (h.routes.get? e.source).isSome then none
  else
    let field ← e.sourceHandle
    let input ← e.targetHandle
    let v ← (← h.outputs.get? e.source).get? field
    return (input, v)

/-- The inputs that edges carry; of two for the same input the later one stays. -/
def carriedInputs (edges : List Edge) (h : History) : Fields :=
  Dict.ofList (edges.filterMap (·.carried? h))

/-! ## Visiting -/

/-- What a run is given. -/
structure RunRequest where
  plan : Plan
  context : RunContext
  cancellation : Cancellation

namespace RunRequest

variable (r : RunRequest)

/-- The edges that lead on to a node. -/
def activeEdges (h : History) (id : String) : List Edge :=
  (r.plan.graph.incoming id).filter (·.isActive h)

/-- What a node is given after the visits of a history. -/
def nodeContext (h : History) (node : NamedNode) : NodeContext where
  displayName := node.displayName
  inputs :=
    -- Barred edges count here, too: a node behind a condition never reads the run input.
    if (r.plan.graph.incoming node.id).isEmpty then rootInputs r.context.input
    else carriedInputs (r.activeEdges h node.id) h
  bindings := (r.plan.graph.scope node.id h.outputs r.context).resolve
  routing := r.plan.settings.routing

def visit (h : History) (s : Step) : Visit :=
  if !(r.plan.graph.incoming s.id).isEmpty && (r.activeEdges h s.id).isEmpty then .skipped s.id
  else
    let execution := s.task.execute (r.nodeContext h s.node)
    .executed s.id s.node.spec.nodeType execution.notes
      (execution.finish (r.plan.settings.maxExecutionTimeMs.map UInt64.toNat) r.cancellation
        h.clock)

/-- The error that stops a run because of a visit. -/
def stop? (s : Step) (v : Visit) : Option RunError :=
  match v.error? with
  | none => none
  | some .cancelled => some .cancelled
  | some e =>
    match e, s.node.spec.isCondition with
    -- Without a path no edge can be followed, so this failure is never passed over.
    | .evaluation source, true => some (.routing s.id source)
    | e, _ =>
      match r.plan.settings.onError with
      | .stopWorkflow => some (.nodeFailed s.id e)
      | .continueOnError => none

/-- Visits nodes one after the other, behind the visits of a history, and gives all visits and the
error that stopped the run, if one did. -/
def visitAll : List Step → History → History × Option RunError
  | [], h => (h, none)
  | s :: steps, h =>
    -- Asked in front of every node, also of one that would be skipped.
    if r.cancellation.isDue h.clock then (h, some .cancelled)
    else
      let v := r.visit h s
      match r.stop? s v with
      | some e => (h ++ [v], some e)
      | none => visitAll steps (h ++ [v])

end RunRequest

/-! ## Results -/

/-- What a run comes to. -/
structure RunResult where
  executionId : Uuid
  outputs : OutputStore
  /-- The paths that conditions took. -/
  routes : Dict String
  completedNodes : Nat
  skippedNodes : List String
  failedNodes : List String
  totalNodes : Nat

def RunResult.ofHistory (executionId : Uuid) (totalNodes : Nat) (h : History) : RunResult where
  executionId
  outputs := h.outputs
  routes := h.routes
  completedNodes := h.completed.length
  skippedNodes := h.skipped
  failedNodes := h.failed
  totalNodes

/-- A run that is over: the visits it made, and its result. -/
structure Run where
  history : History
  result : Except RunError RunResult

def Run.events (r : Run) : List Event :=
  .workflowStarted :: r.history.flatMap Visit.events ++
    [.workflowCompleted r.result.isOk r.history.clock]

def RunRequest.run (r : RunRequest) : Run :=
  match r.visitAll r.plan.steps [] with
  | (h, some e) => ⟨h, .error e⟩
  | (h, none) =>
    ⟨h, .ok (.ofHistory r.context.executionId r.plan.graph.nodes.length h)⟩

/-- Runs a workflow. One that does not pass the checks makes no visits. -/
def Workflow.run (w : Workflow) (context : RunContext) (cancellation : Cancellation) : Run :=
  match Plan.ofWorkflow w with
  | .error e => ⟨[], .error e⟩
  | .ok plan => RunRequest.run ⟨plan, context, cancellation⟩

end FlowRouting
