import FlowRouting.Proofs.Condition.Modes
import FlowRouting.Proofs.Run.Activity
import FlowRouting.Proofs.Run.Instances
import FlowRouting.Proofs.Run.Replay
import FlowRouting.Proofs.Run.Trace

/-!
# What becomes of the nodes

A run that has a result has visited every node once. As a node that is visited completes, is skipped
or fails, and only one of these, the nodes fall into three parts, which are the keys of the outputs,
the skipped nodes and the failed nodes. The routes are an excerpt of the first part: they are those
of the conditions, and each of them is a path of its condition.
-/

namespace FlowRouting

/-! ## The three parts of a history -/

namespace Visit

private theorem isSkipped_eq (v : Visit) : (v.isSkipped && !v.output?.isSome) = v.isSkipped := by
  cases v <;> rfl

private theorem isSome_error?_eq (v : Visit) :
    (!v.isSkipped && !v.output?.isSome) = v.error?.isSome := by
  cases v with
  | skipped id => rfl
  | executed id nodeType notes ending => rcases ending with ⟨duration, e | output⟩ <;> rfl

end Visit

namespace History

variable {h : History}

private theorem perm_parts (h : History) :
    (h.completed ++ h.skipped ++ h.failed).Perm (h.map Visit.nodeId) := by
  -- What did not complete was skipped, or else it failed.
  let rest := h.filter fun v ↦ !v.output?.isSome
  have hskipped : rest.filter Visit.isSkipped = h.filter Visit.isSkipped := by
    rw [List.filter_filter]
    exact List.filter_congr fun v _ ↦ v.isSkipped_eq
  have hfailed : rest.filter (fun v ↦ !v.isSkipped) = h.filter fun v ↦ v.error?.isSome := by
    rw [List.filter_filter]
    exact List.filter_congr fun v _ ↦ v.isSome_error?_eq
  have hrest := List.filter_append_perm Visit.isSkipped rest
  rw [hskipped, hfailed] at hrest
  have hall := List.filter_append_perm (fun v ↦ v.output?.isSome) h
  have hparts := ((hrest.append_left _).trans hall).map Visit.nodeId
  rwa [List.map_append, List.map_append, ← List.append_assoc] at hparts

private theorem keys_outputs_perm (hnodup : (h.map Visit.nodeId).Nodup) :
    h.outputs.keys.Perm h.completed := by
  have hkeys := keys_collect_perm (f := fun v ↦ v.output?.map NodeOutput.outputs) hnodup
  rw [← outputs_eq_collect] at hkeys
  simp only [Option.isSome_map] at hkeys
  exact hkeys

end History

/-! ## Paths that are taken -/

private theorem Routing.exists_path_of_outcome {vars : Variables} {mode : RoutingMode}
    {fallback : Path} {index : Nat} {paths : List Path} {s : Selection}
    (h : (tryPaths vars mode fallback index paths).outcome = .ok s) :
    (∃ p ∈ paths, p.id = s.pathId) ∨ fallback.id = s.pathId := by
  have hlenient : (tryPaths vars .lenient fallback index paths).outcome = .ok s := by
    cases mode with
    | strict => rwa [tryPaths_lenient_of_strict h]
    | lenient => exact h
  obtain ⟨p, matched, place, _, _, hselects, _, hp, _⟩ :=
    exists_tryPaths_lenient vars fallback paths index index
  rw [hselects] at hlenient
  cases hlenient
  rcases List.mem_append.mp (List.mem_of_getElem? hp) with hp | hp
  · exact Or.inl ⟨p, hp, rfl⟩
  · exact Or.inr (congrArg Path.id (List.mem_singleton.mp hp)).symm

private theorem Routing.exists_path_of_choose {vars : Variables} {mode : RoutingMode}
    {paths : List Path} {s : Selection} (h : (choose vars mode paths).outcome = .ok s) :
    ∃ p ∈ paths, p.id = s.pathId := by
  rw [choose] at h
  split at h
  · cases h
  · next fallback hlast =>
    rcases exists_path_of_outcome h with ⟨p, hp, hid⟩ | hid
    · exact ⟨p, List.dropLast_subset _ hp, hid⟩
    · exact ⟨fallback, List.mem_of_getLast? hlast, hid⟩

/-! ## Visits and nodes -/

/-- What a completed visit has to do with the node: it took a path exactly if the node is a
condition, and the path is one of those that the node is configured with. -/
private structure NodeSpec.RoutesAs (spec : NodeSpec) (output : NodeOutput) : Prop where
  isSome_branch_iff : output.branch.isSome = true ↔ spec.isCondition = true
  exists_path : ∀ route, output.branch = some route →
    ∃ c, Condition.ofFields spec.id spec.config = .ok c ∧ ∃ p ∈ c.paths, p.id = route

private theorem RunRequest.routesAs_of_output? {r : RunRequest} {h : History} {s : Step}
    (htask : s.node.spec.task = .ok s.task) {output : NodeOutput}
    (houtput : (r.visit h s).output? = some output) : s.node.spec.RoutesAs output := by
  have hresult := result_of_output? houtput
  have hbranch := isSome_branch_iff htask hresult
  refine ⟨hbranch, fun route hroute ↦ ?_⟩
  -- Only a condition has taken a path, and it is one that its routing has selected.
  have hcondition : s.node.spec.isCondition = true := by
    rw [← hbranch, hroute]
    rfl
  obtain ⟨c, hc, hconfig⟩ := exists_condition_of_task htask (beq_iff_eq.mp hcondition)
  have hexecute := result_of_ending hresult (by simp) (by simp)
  rw [hc] at hexecute
  obtain ⟨selection, hselection, rfl⟩ := exists_selection_of_route hexecute
  obtain ⟨p, hp, hid⟩ := Routing.exists_path_of_choose hselection
  cases hroute
  exact ⟨c, hconfig, p, hp, hid⟩

/-! ## The accounts of a result -/

/-- A result accounts for the nodes of a workflow: without loss or repetition, they are those with
outputs, the skipped ones and the failed ones; the counts are those of the parts; and the routes are
those of the conditions with outputs, each of them a path of its condition. -/
structure RunResult.Accounts (res : RunResult) (w : Workflow) : Prop where
  partition : (res.outputs.keys ++ res.skippedNodes ++ res.failedNodes).Perm
    (w.nodes.map NodeSpec.id)
  nodup : (res.outputs.keys ++ res.skippedNodes ++ res.failedNodes).Nodup
  completedNodes : res.completedNodes = res.outputs.keys.length
  counts : res.completedNodes + res.skippedNodes.length + res.failedNodes.length = res.totalNodes
  totalNodes : res.totalNodes = w.nodes.length
  mem_routes_iff : ∀ id, id ∈ res.routes.keys ↔ id ∈ res.outputs.keys ∧
    ∃ spec ∈ w.nodes, spec.id = id ∧ spec.isCondition = true
  exists_path : ∀ id route, res.routes.get? id = some route → ∃ spec ∈ w.nodes, spec.id = id ∧
    ∃ c, Condition.ofFields id spec.config = .ok c ∧ ∃ p ∈ c.paths, p.id = route

/-- A history has one visit of every node of a workflow, and takes paths where the nodes say. -/
private structure History.Covers (h : History) (w : Workflow) : Prop where
  nodup_ids : (w.nodes.map NodeSpec.id).Nodup
  perm : (h.map Visit.nodeId).Perm (w.nodes.map NodeSpec.id)
  routesAs : ∀ v ∈ h, ∃ spec ∈ w.nodes, spec.id = v.nodeId ∧
    ∀ output, v.output? = some output → spec.RoutesAs output

namespace History.Covers

variable {h : History} {w : Workflow}

private theorem nodup (hcovers : h.Covers w) : (h.map Visit.nodeId).Nodup :=
  hcovers.perm.nodup_iff.mpr hcovers.nodup_ids

private theorem partition (hcovers : h.Covers w) :
    (h.outputs.keys ++ h.skipped ++ h.failed).Perm (w.nodes.map NodeSpec.id) := by
  have hkeys := keys_outputs_perm hcovers.nodup
  exact (((hkeys.append_right _).append_right _).trans h.perm_parts).trans hcovers.perm

private theorem mem_keys_outputs_iff (hcovers : h.Covers w) {id : String} :
    id ∈ h.outputs.keys ↔ ∃ v ∈ h, v.nodeId = id ∧ ∃ output, v.output? = some output := by
  rw [outputs_eq_collect, mem_keys_collect_iff hcovers.nodup]
  simp only [Option.isSome_map, Option.isSome_iff_exists]

private theorem mem_keys_routes_iff (hcovers : h.Covers w) {id : String} :
    id ∈ h.routes.keys ↔ id ∈ h.outputs.keys ∧
      ∃ spec ∈ w.nodes, spec.id = id ∧ spec.isCondition = true := by
  rw [routes_eq_collect, mem_keys_collect_iff hcovers.nodup, hcovers.mem_keys_outputs_iff]
  constructor
  · rintro ⟨v, hv, rfl, hbranch⟩
    obtain ⟨route, hroute⟩ := Option.isSome_iff_exists.mp hbranch
    obtain ⟨output, houtput, hroute⟩ := Option.bind_eq_some_iff.mp hroute
    obtain ⟨spec, hspec, hid, hroutes⟩ := hcovers.routesAs v hv
    refine ⟨⟨v, hv, rfl, output, houtput⟩, spec, hspec, hid, ?_⟩
    rw [← (hroutes output houtput).isSome_branch_iff, hroute]
    rfl
  · rintro ⟨⟨v, hv, rfl, output, houtput⟩, spec, hspec, hid, hcondition⟩
    obtain ⟨spec', hspec', hid', hroutes⟩ := hcovers.routesAs v hv
    -- No two nodes have the same id.
    have hsame : spec' = spec :=
      List.inj_on_of_nodup_map hcovers.nodup_ids hspec' hspec (hid'.trans hid.symm)
    subst hsame
    refine ⟨v, hv, rfl, ?_⟩
    rw [houtput, Option.bind_some]
    exact (hroutes output houtput).isSome_branch_iff.mpr hcondition

private theorem exists_path (hcovers : h.Covers w) {id route : String}
    (hroute : h.routes.get? id = some route) : ∃ spec ∈ w.nodes, spec.id = id ∧
      ∃ c, Condition.ofFields id spec.config = .ok c ∧ ∃ p ∈ c.paths, p.id = route := by
  have hkey : id ∈ h.routes.keys := by
    rw [Dict.mem_keys_iff, hroute]
    rfl
  rw [routes_eq_collect, mem_keys_collect_iff hcovers.nodup] at hkey
  obtain ⟨v, hv, rfl, _⟩ := hkey
  rw [routes_eq_collect, get?_collect_of_mem hcovers.nodup hv] at hroute
  obtain ⟨output, houtput, hbranch⟩ := Option.bind_eq_some_iff.mp hroute
  obtain ⟨spec, hspec, hid, hroutes⟩ := hcovers.routesAs v hv
  refine ⟨spec, hspec, hid, ?_⟩
  rw [← hid]
  exact (hroutes output houtput).exists_path route hbranch

/-- The result of such a history accounts for the nodes. -/
private theorem accounts (hcovers : h.Covers w) (executionId : Uuid) :
    (RunResult.ofHistory executionId w.nodes.length h).Accounts w where
  partition := hcovers.partition
  nodup := hcovers.partition.nodup_iff.mpr hcovers.nodup_ids
  completedNodes := (keys_outputs_perm hcovers.nodup).length_eq.symm
  counts := by
    have hlength := h.perm_parts.length_eq
    rw [hcovers.perm.length_eq, List.length_append, List.length_append, List.length_map] at hlength
    exact hlength
  totalNodes := rfl
  mem_routes_iff _ := hcovers.mem_keys_routes_iff
  exists_path _ _ := hcovers.exists_path

end History.Covers

/-- The history of a run that has a result covers the workflow. -/
private theorem covers_of_run_ok {w : Workflow} {context : RunContext} {cancellation : Cancellation}
    {res : RunResult} (hres : (w.run context cancellation).result = .ok res) :
    (w.run context cancellation).history.Covers w ∧
      res = .ofHistory context.executionId w.nodes.length (w.run context cancellation).history := by
  obtain ⟨plan, hok⟩ := exists_plan_of_run_ok hres
  have hplan := Plan.ofWorkflow_eq_ok_iff.mp hok
  obtain ⟨done, rest, hsteps, hhistory, hdone⟩ := exists_visits_of_run hok context cancellation
  obtain ⟨rfl, hresult⟩ := hdone res hres
  rw [List.append_nil] at hsteps
  have hlength : plan.graph.nodes.length = w.nodes.length := by
    rw [← hplan.length_steps, ← hplan.nodes_eq, List.length_map]
  refine ⟨⟨hplan.represents.nodup_ids, ?_, fun v hv ↦ ?_⟩, by rw [hresult, hlength]⟩
  · rw [hhistory, RunRequest.map_nodeId_visits, ← hsteps, hplan.map_id_steps]
    exact hplan.represents.order_perm
  · obtain ⟨before, after, hsplit⟩ := List.append_of_mem hv
    obtain ⟨plan', s, hok', hs, rfl⟩ := exists_step_of_visit hsplit
    have hplan' := Plan.ofWorkflow_eq_ok_iff.mp hok'
    refine ⟨s.node.spec, hplan'.represents.spec_mem (hplan'.node_mem hs), ?_, fun output ↦ ?_⟩
    · rw [RunRequest.nodeId_visit]
      rfl
    · exact RunRequest.routesAs_of_output? (hplan'.task_eq s hs)

/-- **Every node is accounted for.** The result of a run, if it has one, accounts for the nodes of
the workflow, and it is what an observer makes of the events. No run, whether it has a result or
not, is interrupted because a node has no task left in the table of tasks. -/
theorem run_accounts (w : Workflow) (context : RunContext) (cancellation : Cancellation) :
    (∀ res, (w.run context cancellation).result = .ok res → res.Accounts w ∧
      res = .replay context.executionId w.nodes.length (w.run context cancellation).events) ∧
      w.runInstances context cancellation = ((w.run context cancellation).history,
        (w.run context cancellation).result.mapError .error) ∧
      ∀ id, (w.runInstances context cancellation).2 ≠ .error (.notInstantiated id) := by
  have hinstances := w.runInstances_eq context cancellation
  refine ⟨fun res hres ↦ ?_, hinstances, fun id ↦ ?_⟩
  · obtain ⟨hcovers, rfl⟩ := covers_of_run_ok hres
    refine ⟨hcovers.accounts context.executionId, ?_⟩
    rw [RunResult.replay_events]
  · rw [hinstances]
    intro herror
    obtain ⟨e, _, he⟩ := mapError_eq_error_iff.mp herror
    cases he

/-- Of the three nodes of a fork two complete, one of them the condition. -/
theorem run_accounts_forked :
    ∃ res, (forked.run exampleContext .never).result = .ok res ∧ res.Accounts forked ∧
      res = .replay Uuid.nil 3 (forked.run exampleContext .never).events ∧
      res.completedNodes = 2 ∧ res.skippedNodes = ["untaken"] ∧ res.routes.keys = ["gate"] := by
  have hcompleted : (forked.run exampleContext .never).result.toOption.map
      RunResult.completedNodes = some 2 := by decide +kernel
  have hskipped : (forked.run exampleContext .never).result.toOption.map
      RunResult.skippedNodes = some ["untaken"] := by decide +kernel
  have hroutes : (forked.run exampleContext .never).result.toOption.map
      (fun res ↦ res.routes.keys) = some ["gate"] := by decide +kernel
  obtain ⟨res, hres⟩ := exists_eq_ok_of_isOk
    (show (forked.run exampleContext .never).result.isOk = true by decide +kernel)
  obtain ⟨haccounts, -⟩ := run_accounts forked exampleContext .never
  obtain ⟨hsound, hreplay⟩ := haccounts res hres
  rw [hres] at hcompleted hskipped hroutes
  exact ⟨res, hres, hsound, hreplay, Option.some.inj hcompleted, Option.some.inj hskipped,
    Option.some.inj hroutes⟩

end FlowRouting
