import FlowRouting.Proofs.Run.Part

/-!
# What a run does not depend on

A workflow with its nodes in another order is a part of the workflow, and the other way round. So
the order in which an author lists the nodes has no influence on whether the workflow is accepted,
and none on what its runs come to: visits are made in another order, but they are the same visits.

A slice is a part as well, and its topological order is that of the whole with the other nodes left
out. So is its history, and each part of its result. What is not above a node has no influence on
it.
-/

namespace FlowRouting

/-! ## Views of a history in another order or with nodes left out -/

namespace History

variable {h h' : History}

private theorem map_nodeId_filter_perm (hperm : h'.Perm h) (p : Visit → Bool) :
    ((h'.filter p).map Visit.nodeId).Perm ((h.filter p).map Visit.nodeId) :=
  (hperm.filter p).map Visit.nodeId

private theorem map_nodeId_filter_keep (keep : String → Bool) (p : Visit → Bool) :
    (((h.filter fun v ↦ keep v.nodeId).filter p).map Visit.nodeId) =
      ((h.filter p).map Visit.nodeId).filter keep := by
  rw [List.filter_filter, List.filter_map, List.filter_filter]
  congr 1
  exact List.filter_congr fun v _ ↦ Bool.and_comm _ _

end History

/-! ## The order of the nodes -/

/-- Two results are the same but for the order in which nodes were skipped or failed. -/
structure RunResult.Agrees (res' res : RunResult) : Prop where
  executionId : res'.executionId = res.executionId
  outputs : res'.outputs = res.outputs
  routes : res'.routes = res.routes
  completedNodes : res'.completedNodes = res.completedNodes
  totalNodes : res'.totalNodes = res.totalNodes
  skippedNodes : res'.skippedNodes.Perm res.skippedNodes
  failedNodes : res'.failedNodes.Perm res.failedNodes

/-- The order of the visits of a history does not matter to the result. -/
theorem RunResult.agrees_of_perm {h h' : History} (hnodup : (h'.map Visit.nodeId).Nodup)
    (hperm : h'.Perm h) (executionId : Uuid) {total total' : Nat} (htotal : total' = total) :
    Agrees (.ofHistory executionId total' h') (.ofHistory executionId total h) where
  executionId := rfl
  outputs := by
    show h'.outputs = h.outputs
    rw [History.outputs_eq_collect, History.outputs_eq_collect,
      History.collect_eq_of_perm hnodup hperm]
  routes := by
    show h'.routes = h.routes
    rw [History.routes_eq_collect, History.routes_eq_collect,
      History.collect_eq_of_perm hnodup hperm]
  completedNodes := (History.map_nodeId_filter_perm hperm _).length_eq
  totalNodes := htotal
  skippedNodes := History.map_nodeId_filter_perm hperm _
  failedNodes := History.map_nodeId_filter_perm hperm _

namespace Workflow.Reorders

variable {w w' : Workflow}

theorem exists_plan (h : w'.Reorders w) (hnamed : w.IsNamed)
    (hplan : ∃ plan, Plan.ofWorkflow w = .ok plan) : ∃ plan, Plan.ofWorkflow w' = .ok plan := by
  obtain ⟨plan, hok⟩ := hplan
  exact (h.isPart (Plan.ofWorkflow_eq_ok_iff.mp hok).represents).exists_plan hnamed ⟨plan, hok⟩

theorem exists_run_agrees (h : w'.Reorders w) (hnamed : w.IsNamed) {context : RunContext}
    {res : RunResult} (hres : (w.run context .never).result = .ok res) :
    ∃ res', (w'.run context .never).result = .ok res' ∧ res'.Agrees res := by
  obtain ⟨plan, hok⟩ := exists_plan_of_run_ok hres
  obtain ⟨hthrough, rfl⟩ := (Plan.run_eq_ok_iff hok).mp hres
  have hplan := Plan.ofWorkflow_eq_ok_iff.mp hok
  obtain ⟨plan', hok', hres'⟩ := (h.isPart hplan.represents).exists_run hnamed hok hthrough
  have hplan' := Plan.ofWorkflow_eq_ok_iff.mp hok'
  have hnodes := h.graph_nodes_perm hplan.represents hplan'.represents hnamed
  -- The steps are the same up to their order, and each of them is visited alike.
  have hsteps : plan'.steps.Perm plan.steps := by
    rw [hplan.steps_eq, hplan'.steps_eq]
    exact hnodes.filterMap _
  have hhistory : (plan'.steps.map (plan.finalVisit context)).Perm (plan.fullHistory context) := by
    rw [Plan.fullHistory_eq_map hplan]
    exact hsteps.map _
  have hnodup := (hhistory.map Visit.nodeId).nodup_iff.mpr (Plan.nodup_fullHistory hplan context)
  exact ⟨_, hres', RunResult.agrees_of_perm hnodup hhistory _ hnodes.length_eq⟩

end Workflow.Reorders

/-- **The order of the nodes does not matter.** Of two workflows that differ only in the order of
their nodes, all of which have names by their author, either both are accepted or neither is, and if
a run of one comes to a result without being cancelled, then so does that of the other, with the
same outputs, the same routes and the same counts, and with the same nodes skipped and failed. -/
theorem run_agrees_of_reorders {w w' : Workflow} (horder : w'.Reorders w) (hnamed : w.IsNamed)
    (context : RunContext) :
    ((∃ plan, Plan.ofWorkflow w' = .ok plan) ↔ ∃ plan, Plan.ofWorkflow w = .ok plan) ∧
      (∀ res, (w.run context .never).result = .ok res →
        ∃ res', (w'.run context .never).result = .ok res' ∧ res'.Agrees res) ∧
      ∀ res', (w'.run context .never).result = .ok res' →
        ∃ res, (w.run context .never).result = .ok res ∧ res.Agrees res' := by
  have hnamed' := horder.isNamed hnamed
  refine ⟨⟨?_, ?_⟩, fun res hres ↦ ?_, fun res' hres' ↦ ?_⟩
  · exact horder.symm.exists_plan hnamed'
  · exact horder.exists_plan hnamed
  · exact horder.exists_run_agrees hnamed hres
  · exact horder.symm.exists_run_agrees hnamed' hres'

/-! ### A crowded workflow

The two nodes that fail have no edges, so that the order of the author decides which is first. -/

/-- A condition with a node behind each of its two paths, between two nodes that fail. -/
def crowded : Workflow where
  id := Uuid.nil
  name := "crowded"
  nodes :=
    [{ id := "first", nodeType := "transform.json_parse", displayName := some "First",
        config := [("json", .text "[")] },
      { id := "gate", nodeType := "condition", displayName := some "Gate",
        config := Condition.toFields
          ⟨[⟨"open", "Open", [], .and⟩, ⟨"else", "Else", [], .and⟩], none, none⟩ },
      { id := "taken", nodeType := "text", displayName := some "Taken",
        config := [("template", .text "via \x7b\x7bGate.pathName\x7d\x7d")] },
      { id := "untaken", nodeType := "text", displayName := some "Untaken" },
      { id := "second", nodeType := "transform.json_parse", displayName := some "Second",
        config := [("json", .text "]")] }]
  edges :=
    [{ source := "gate", target := "taken", sourceHandle := some "open" },
      { source := "gate", target := "untaken", sourceHandle := some "else" }]
  settings := { onError := .continueOnError }

/-- The same workflow, listed from its last node. -/
def crowdedBackwards : Workflow :=
  { crowded with nodes := crowded.nodes.reverse }

private theorem isNamed_crowded : crowded.IsNamed := by
  show ∀ spec ∈ crowded.nodes, _
  decide +kernel

/-- The results agree, although the two nodes fail in another order. -/
theorem run_agrees_of_reorders_crowded :
    ∃ res res', (crowded.run exampleContext .never).result = .ok res ∧
      (crowdedBackwards.run exampleContext .never).result = .ok res' ∧ res'.Agrees res ∧
      res.failedNodes = ["second", "first"] ∧ res'.failedNodes = ["first", "second"] := by
  have hfailed : (crowded.run exampleContext .never).result.toOption.map
      RunResult.failedNodes = some ["second", "first"] := by decide +kernel
  have hfailed' : (crowdedBackwards.run exampleContext .never).result.toOption.map
      RunResult.failedNodes = some ["first", "second"] := by decide +kernel
  obtain ⟨res, hres⟩ := exists_eq_ok_of_isOk
    (show (crowded.run exampleContext .never).result.isOk = true by decide +kernel)
  have horder : crowdedBackwards.Reorders crowded := ⟨List.reverse_perm _, rfl⟩
  obtain ⟨-, hagrees, -⟩ := run_agrees_of_reorders horder isNamed_crowded exampleContext
  obtain ⟨res', hres', hsame⟩ := hagrees res hres
  rw [hres] at hfailed
  rw [hres'] at hfailed'
  exact ⟨res, res', hres, hres', hsame, Option.some.inj hfailed, Option.some.inj hfailed'⟩

/-! ## Slices -/

/-- A result with only the nodes that are kept. -/
structure RunResult.RestrictsTo (res : RunResult) (keep : String → Bool) (res' : RunResult) :
    Prop where
  outputs : res'.outputs = res.outputs.filter fun entry ↦ keep entry.1
  routes : res'.routes = res.routes.filter fun entry ↦ keep entry.1
  skippedNodes : res'.skippedNodes = res.skippedNodes.filter keep
  failedNodes : res'.failedNodes = res.failedNodes.filter keep

private theorem RunResult.restrictsTo_filter {h : History} (hnodup : (h.map Visit.nodeId).Nodup)
    (keep : String → Bool) (executionId : Uuid) (total total' : Nat) :
    RestrictsTo (.ofHistory executionId total h) keep
      (.ofHistory executionId total' (h.filter fun v ↦ keep v.nodeId)) where
  outputs := by
    show History.outputs _ = h.outputs.filter _
    rw [History.outputs_eq_collect, History.outputs_eq_collect, History.collect_filter hnodup]
  routes := by
    show History.routes _ = h.routes.filter _
    rw [History.routes_eq_collect, History.routes_eq_collect, History.collect_filter hnodup]
  skippedNodes := History.map_nodeId_filter_keep keep _
  failedNodes := History.map_nodeId_filter_keep keep _

private theorem NamedNode.step?_filter {nodes : List NamedNode} (keep : String → Bool) :
    (nodes.filter fun n ↦ keep n.id).filterMap NamedNode.step? =
      (nodes.filterMap NamedNode.step?).filter fun s ↦ keep s.id := by
  rw [List.filterMap_filter, List.filter_filterMap]
  refine List.filterMap_congr fun n _ ↦ ?_
  cases hstep : n.step? with
  | none => rw [ite_self, Option.filter_none]
  | some s =>
    rw [Option.filter_some, Step.id, NamedNode.node_of_step? hstep]

/-- **Only what is above a node matters to it.** Let the sources of edges to nodes that are kept be
kept, let all nodes have names by their author, and let none be named with the id of another. If a
run of the workflow comes to a result without being cancelled, then so does that of the slice, and
each part of its result is that of the whole with the other nodes left out. -/
theorem run_slice_restricts {w : Workflow} {keep : String → Bool} (hnamed : w.IsNamed)
    (hnames : w.NamesNoOther) (hkeep : w.KeepsSources keep) {context : RunContext}
    {res : RunResult} (hres : (w.run context .never).result = .ok res) :
    ∃ res', ((w.slice keep).run context .never).result = .ok res' ∧ res.RestrictsTo keep res' := by
  obtain ⟨plan, hok⟩ := exists_plan_of_run_ok hres
  obtain ⟨hthrough, rfl⟩ := (Plan.run_eq_ok_iff hok).mp hres
  have hplan := Plan.ofWorkflow_eq_ok_iff.mp hok
  have hpart := Workflow.isPart_slice hplan.represents hkeep hnames
  obtain ⟨plan', hok', hres'⟩ := hpart.exists_run hnamed hok hthrough
  have hplan' := Plan.ofWorkflow_eq_ok_iff.mp hok'
  -- Slicing the workflow leaves nodes out of the graph, then steps of the plan, then visits.
  have hnodes : plan'.graph.nodes = plan.graph.nodes.filter fun n ↦ keep n.id := by
    have hbuild := hplan'.build_eq
    rw [Workflow.build_slice hplan.build_eq hnamed hkeep, Except.ok.injEq] at hbuild
    rw [← hbuild]
  have hsteps : plan'.steps = plan.steps.filter fun s ↦ keep s.id := by
    rw [hplan.steps_eq, hplan'.steps_eq, hnodes, NamedNode.step?_filter]
  have hhistory : plan'.steps.map (plan.finalVisit context) =
      (plan.fullHistory context).filter fun v ↦ keep v.nodeId := by
    rw [Plan.fullHistory_eq_map hplan, hsteps, List.filter_map]
    simp only [Function.comp_def, Plan.nodeId_finalVisit]
  refine ⟨_, hres', ?_⟩
  rw [hhistory]
  exact RunResult.restrictsTo_filter (Plan.nodup_fullHistory hplan context) keep _ _ _

/-- Without the node on the path that is taken and without the first of the two that fail, the
condition goes on as before, and the other nodes are skipped and fail as before. -/
theorem run_slice_restricts_crowded :
    ∃ res res', (crowded.run exampleContext .never).result = .ok res ∧
      ((crowded.slice (["gate", "untaken", "second"].contains ·)).run exampleContext
        .never).result = .ok res' ∧
      res.RestrictsTo (["gate", "untaken", "second"].contains ·) res' ∧
      res'.routes = [("gate", "open")] ∧ res'.skippedNodes = ["untaken"] ∧
      res'.failedNodes = ["second"] := by
  have hnames : crowded.NamesNoOther := by
    have hfree : ∀ spec ∈ crowded.nodes, ∀ other ∈ crowded.nodes,
        other.explicitName? ≠ some spec.id := by decide +kernel
    exact fun spec hspec other hother hname ↦ absurd hname (hfree spec hspec other hother)
  have hkeep : crowded.KeepsSources (["gate", "untaken", "second"].contains ·) := by
    show ∀ e ∈ crowded.edges, _
    decide
  have hroutes : (crowded.run exampleContext .never).result.toOption.map
      RunResult.routes = some [("gate", "open")] := by decide +kernel
  have hskipped : (crowded.run exampleContext .never).result.toOption.map
      RunResult.skippedNodes = some ["untaken"] := by decide +kernel
  have hfailed : (crowded.run exampleContext .never).result.toOption.map
      RunResult.failedNodes = some ["second", "first"] := by decide +kernel
  obtain ⟨res, hres⟩ := exists_eq_ok_of_isOk
    (show (crowded.run exampleContext .never).result.isOk = true by decide +kernel)
  obtain ⟨res', hres', hrestricts⟩ := run_slice_restricts isNamed_crowded hnames hkeep hres
  rw [hres] at hroutes hskipped hfailed
  refine ⟨res, res', hres, hres', hrestricts, ?_, ?_, ?_⟩
  · rw [hrestricts.routes, Option.some.inj hroutes]
    decide
  · rw [hrestricts.skippedNodes, Option.some.inj hskipped]
    decide
  · rw [hrestricts.failedNodes, Option.some.inj hfailed]
    decide

end FlowRouting
