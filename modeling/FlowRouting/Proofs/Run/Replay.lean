import FlowRouting.Proofs.Run.Views
import FlowRouting.Run.Basic

/-!
# Replaying the events of a run

An observer who keeps a result of its own and changes it with every event ends up with the result of
the run: an output is put in when a node completes, a route when it takes a path, and skipped and
failed nodes are put behind those before. The result of a run is read off its history at once; the
step from one to the other is that the events of one visit change the result of a history into that
of the history with this visit at its end.
-/

namespace FlowRouting

namespace RunResult

/-- A result with what an event says. -/
def absorb (res : RunResult) : Event → RunResult
  | .nodeCompleted id outputs _ =>
    { res with
      outputs := res.outputs.insert id outputs
      completedNodes := res.completedNodes + 1 }
  | .pathSelected id pathId _ _ => { res with routes := res.routes.insert id pathId }
  | .nodeSkipped id => { res with skippedNodes := res.skippedNodes ++ [id] }
  | .nodeFailed id _ => { res with failedNodes := res.failedNodes ++ [id] }
  | .workflowStarted | .workflowCompleted .. | .nodeStarted .. | .noted .. => res

def blank (executionId : Uuid) (totalNodes : Nat) : RunResult where
  executionId
  outputs := []
  routes := []
  completedNodes := 0
  skippedNodes := []
  failedNodes := []
  totalNodes

/-- The result that events tell. -/
def replay (executionId : Uuid) (totalNodes : Nat) (events : List Event) : RunResult :=
  events.foldl absorb (blank executionId totalNodes)

variable {executionId : Uuid} {totalNodes : Nat}

private theorem foldl_absorb_noted (res : RunResult) (id : String) (notes : List Note) :
    (notes.map (.noted id)).foldl absorb res = res := by
  induction notes with
  | nil => rfl
  | cons note notes ih => rw [List.map_cons, List.foldl_cons, absorb, ih]

private theorem foldl_absorb_visit (h : History) (v : Visit) :
    v.events.foldl absorb (ofHistory executionId totalNodes h) =
      ofHistory executionId totalNodes (h ++ [v]) := by
  have houtputs := History.collect_concat (fun v ↦ v.output?.map NodeOutput.outputs) h v
  have hroutes := History.collect_concat (fun v ↦ v.output?.bind NodeOutput.branch) h v
  rw [← History.outputs_eq_collect, ← History.outputs_eq_collect] at houtputs
  rw [← History.routes_eq_collect, ← History.routes_eq_collect] at hroutes
  simp only [ofHistory, houtputs, hroutes, History.completed, History.skipped, History.failed,
    List.filter_append, List.map_append, List.length_append]
  cases v with
  | skipped id =>
    have hskipped : [Visit.skipped id].filter Visit.isSkipped = [.skipped id] := rfl
    simp [Visit.events, absorb, Visit.output?, Visit.error?, hskipped, Visit.nodeId]
  | executed id nodeType notes ending =>
    rw [Visit.events, List.foldl_append, List.foldl_cons, absorb, foldl_absorb_noted]
    rcases ending with ⟨duration, error | output⟩
    · simp [Ending.events, absorb, Visit.nodeId, Visit.output?, Visit.error?, Visit.isSkipped]
    · cases hbranch : output.branch <;>
        simp [Ending.events, absorb, NodeOutput.selectionEvent?, Visit.nodeId, Visit.output?,
          Visit.error?, Visit.isSkipped, hbranch]

private theorem foldl_absorb_visits (h h' : History) :
    (h'.flatMap Visit.events).foldl absorb (ofHistory executionId totalNodes h) =
      ofHistory executionId totalNodes (h ++ h') := by
  induction h' generalizing h with
  | nil => rw [List.flatMap_nil, List.foldl_nil, List.append_nil]
  | cons v h' ih =>
    rw [List.flatMap_cons, List.foldl_append, foldl_absorb_visit, ih, List.append_assoc,
      List.singleton_append]

/-- The events of a run tell the result of its history. -/
theorem replay_events (run : Run) :
    replay executionId totalNodes run.events = ofHistory executionId totalNodes run.history := by
  have hblank : blank executionId totalNodes = ofHistory executionId totalNodes [] := rfl
  rw [replay, Run.events, List.cons_append, List.foldl_cons, List.foldl_append, absorb, hblank,
    foldl_absorb_visits, List.nil_append]
  rfl

end RunResult

end FlowRouting
