import FlowRouting.Proofs.Dict
import FlowRouting.Proofs.Validation.Acceptance

/-!
# Running from a table of tasks

The tasks of a plan stand beside its nodes, so that a run cannot miss one. One may also keep them in
a table under the ids of their nodes, follow the topological order, look up each node in the graph,
and take its task out of the table when it is executed. A look-up in the table may then fail, and a
second one for the same node would.

It never does: the order has no id twice, so that the table still has the tasks of all nodes that
are to come. This is the invariant of the walk (`visitInstances_eq`), by which both kinds of runs
are the same.
-/

namespace FlowRouting

/-- Why a run from a table of tasks is interrupted. -/
inductive Interruption where
  | error (e : RunError)
  /-- The table has no task for a node. -/
  | notInstantiated (nodeId : String)

/-! ## The table -/

/-- The task of a node under its id, if the configuration is fit for it. -/
def NodeSpec.instantiate (spec : NodeSpec) : Except RunError (String × Task) := do
  let task ← spec.task.mapError RunError.workflow
  (task.checkConfig spec.config).mapError RunError.node
  return (spec.id, task)

/-- The graph of a workflow that passes its checks, and the table of the tasks of its nodes. -/
def Workflow.prepare (w : Workflow) : Except RunError (Graph × Dict Task) := do
  let graph ← (Graph.build w).mapError RunError.workflow
  let _ ← (graph.validate Schemas.standard).mapError RunError.workflow
  let entries ← w.nodes.mapM NodeSpec.instantiate
  return (graph, Dict.ofList entries)

private theorem NodeSpec.map_instantiate (spec : NodeSpec) :
    spec.instantiate.map (fun _ ↦ ()) = spec.check := by
  rw [instantiate, check]
  cases spec.task with
  | error e => rfl
  | ok task =>
    show Except.map _ ((task.checkConfig spec.config).mapError RunError.node >>= fun _ ↦ _) =
      (task.checkConfig spec.config).mapError RunError.node
    cases task.checkConfig spec.config <;> rfl

private theorem NodeSpec.eq_of_instantiate {spec : NodeSpec} {entry : String × Task}
    (h : spec.instantiate = .ok entry) : entry.1 = spec.id ∧ spec.task = .ok entry.2 := by
  obtain ⟨task, htask, h⟩ := bind_eq_ok_iff.mp h
  obtain ⟨⟨⟩, _, h⟩ := bind_eq_ok_iff.mp h
  cases h
  exact ⟨rfl, mapError_eq_ok_iff.mp htask⟩

private theorem Workflow.prepare_eq_error {w : Workflow} {e : RunError}
    (h : Plan.ofWorkflow w = .error e) : w.prepare = .error e := by
  have hnone : ¬∃ plan, Plan.ofWorkflow w = .ok plan := by
    rintro ⟨plan, hplan⟩
    rw [h] at hplan
    cases hplan
  have hchecks := map_mapM_eq_forM w.nodes NodeSpec.map_instantiate
  rw [Plan.ofWorkflow] at h
  rw [prepare]
  refine bind_eq_error_iff.mpr ?_
  rcases bind_eq_error_iff.mp h with hbuild | ⟨graph, hbuild, h⟩
  · exact Or.inl hbuild
  refine Or.inr ⟨graph, hbuild, bind_eq_error_iff.mpr ?_⟩
  rcases bind_eq_error_iff.mp h with hvalid | ⟨warnings, hvalid, h⟩
  · exact Or.inl hvalid
  refine Or.inr ⟨warnings, hvalid, bind_eq_error_iff.mpr ?_⟩
  rcases bind_eq_error_iff.mp h with hcheck | ⟨⟨⟩, hcheck, _⟩
  · rw [← hchecks, map_eq_error_iff] at hcheck
    exact Or.inl hcheck
  · -- A workflow that passes all of these checks has a plan.
    exact absurd (exists_plan_iff.mpr ⟨graph, mapError_eq_ok_iff.mp hbuild,
      ⟨warnings, mapError_eq_ok_iff.mp hvalid⟩, forM_eq_ok_iff.mp hcheck⟩) hnone

private theorem Workflow.exists_prepare {w : Workflow} {plan : Plan}
    (h : Plan.ofWorkflow w = .ok plan) : ∃ table, w.prepare = .ok (plan.graph, table) ∧
      ∀ s ∈ plan.steps, table.get? s.id = some s.task := by
  have hplan := Plan.ofWorkflow_eq_ok_iff.mp h
  obtain ⟨warnings, hvalid⟩ := hplan.valid
  have hchecks := map_mapM_eq_forM w.nodes NodeSpec.map_instantiate
  rw [forM_eq_ok_iff.mpr hplan.checked, map_eq_ok_iff] at hchecks
  obtain ⟨entries, hentries, -⟩ := hchecks
  -- The table is made in the order of the nodes, under their ids, which are distinct.
  have hkeys : entries.map Prod.fst = w.nodes.map NodeSpec.id := by
    have hall := (mapM_eq_ok_iff.mp hentries).imp fun _ _ h ↦ (NodeSpec.eq_of_instantiate h).1
    rw [← List.forall₂_eq_eq_eq, List.forall₂_map_left_iff, List.forall₂_map_right_iff]
    exact hall.flip
  refine ⟨Dict.ofList entries, ?_, fun s hs ↦ Dict.get?_ofList_of_mem ?_ ?_⟩
  · exact bind_eq_ok_iff.mpr ⟨plan.graph, mapError_eq_ok_iff.mpr hplan.build_eq,
      bind_eq_ok_iff.mpr ⟨warnings, mapError_eq_ok_iff.mpr hvalid,
        bind_eq_ok_iff.mpr ⟨entries, hentries, rfl⟩⟩⟩
  · rw [hkeys]
    exact hplan.represents.nodup_ids
  · have hspec := hplan.represents.spec_mem (hplan.node_mem hs)
    obtain ⟨entry, hmem, hentry⟩ := exists_of_mapM_eq_ok hentries hspec
    obtain ⟨hid, htask⟩ := NodeSpec.eq_of_instantiate hentry
    rw [hplan.task_eq s hs] at htask
    have heq : (s.id, s.task) = entry := Prod.ext hid.symm (Except.ok.inj htask)
    rwa [heq]

/-! ## The walk -/

namespace RunRequest

/-- Visits the nodes with the given ids one after the other, behind the visits of a history. The
task of a node that is executed is taken out of the table. -/
def visitInstances (r : RunRequest) :
    List String → Dict Task → History → History × Option Interruption
  | [], _, h => (h, none)
  | id :: ids, table, h =>
    if r.cancellation.isDue h.clock then (h, some (.error .cancelled))
    else
      match r.plan.graph.node? id with
      | none => r.visitInstances ids table h
      | some n =>
        if !(r.plan.graph.incoming id).isEmpty && (r.activeEdges h id).isEmpty then
          r.visitInstances ids table (h ++ [.skipped id])
        else
          match table.get? id with
          | none => (h, some (.notInstantiated id))
          | some task =>
            let v := r.visit h ⟨n, task⟩
            match r.stop? ⟨n, task⟩ v with
            | some e => (h ++ [v], some (.error e))
            | none => r.visitInstances ids (table.erase id) (h ++ [v])

variable {r : RunRequest}

/-- If the table has the tasks of the steps, and no two steps are of the same node, then the walk
goes as it does along the steps. -/
theorem visitInstances_eq {steps : List Step} {table : Dict Task} {h : History}
    (hnodes : ∀ s ∈ steps, r.plan.graph.node? s.id = some s.node)
    (hnodup : (steps.map Step.id).Nodup) (htable : ∀ s ∈ steps, table.get? s.id = some s.task) :
    r.visitInstances (steps.map Step.id) table h =
      ((r.visitAll steps h).1, (r.visitAll steps h).2.map .error) := by
  induction steps generalizing table h with
  | nil => rfl
  | cons s steps ih =>
    rw [List.forall_mem_cons] at hnodes htable
    rw [List.map_cons, List.nodup_cons] at hnodup
    rw [List.map_cons, visitInstances, visitAll]
    by_cases hdue : r.cancellation.isDue h.clock = true
    · rw [if_pos hdue, if_pos hdue]
      rfl
    rw [if_neg hdue, if_neg hdue, hnodes.1]
    dsimp only
    by_cases hskip : (!(r.plan.graph.incoming s.id).isEmpty &&
        (r.activeEdges h s.id).isEmpty) = true
    · -- A node that is skipped stops nothing and leaves its task in the table.
      have hvisit : r.visit h s = .skipped s.id := by rw [visit, if_pos hskip]
      have hstop : r.stop? s (.skipped s.id) = none := rfl
      rw [if_pos hskip, hvisit, hstop]
      exact ih hnodes.2 hnodup.2 htable.2
    · -- The task that is taken out is not that of a later step.
      have hlater : ∀ t ∈ steps, (table.erase s.id).get? t.id = some t.task := by
        intro t ht
        have hne : t.id ≠ s.id := by
          intro hid
          exact hnodup.1 (hid ▸ List.mem_map_of_mem ht)
        rw [Dict.get?_erase_of_ne hne]
        exact htable.2 t ht
      rw [if_neg hskip, htable.1]
      show (match r.stop? s (r.visit h s) with | some e => _ | none => _) = _
      cases r.stop? s (r.visit h s) with
      | some e => rfl
      | none => exact ih hnodes.2 hnodup.2 hlater

end RunRequest

/-- Runs a workflow from a table of its tasks. -/
def Workflow.runInstances (w : Workflow) (context : RunContext) (cancellation : Cancellation) :
    History × Except Interruption RunResult :=
  match w.prepare with
  | .error e => ([], .error (.error e))
  | .ok (graph, table) =>
    match RunRequest.visitInstances ⟨⟨graph, [], w.settings⟩, context, cancellation⟩ graph.order
      table [] with
    | (h, some i) => (h, .error i)
    | (h, none) => (h, .ok (.ofHistory context.executionId graph.nodes.length h))

private theorem RunRequest.visitAll_of_steps (plan : Plan) (planned : List Step)
    (context : RunContext) (cancellation : Cancellation) (steps : List Step) (h : History) :
    visitAll ⟨{ plan with steps := planned }, context, cancellation⟩ steps h =
      visitAll ⟨plan, context, cancellation⟩ steps h := by
  induction steps generalizing h with
  | nil => rfl
  | cons s steps ih =>
    simp only [visitAll, ih]
    rfl

theorem Plan.Realizes.visitInstances_eq {plan : Plan} {w : Workflow} (hplan : plan.Realizes w)
    {table : Dict Task} (htable : ∀ s ∈ plan.steps, table.get? s.id = some s.task)
    (context : RunContext) (cancellation : Cancellation) :
    RunRequest.visitInstances ⟨{ plan with steps := [] }, context, cancellation⟩ plan.graph.order
        table [] =
      ((RunRequest.visitAll ⟨plan, context, cancellation⟩ plan.steps []).1,
        (RunRequest.visitAll ⟨plan, context, cancellation⟩ plan.steps []).2.map .error) := by
  have hnodes : ∀ s ∈ plan.steps, plan.graph.node? s.id = some s.node := by
    intro s hs
    exact find?_id_of_mem hplan.represents.nodup_order (hplan.node_mem hs)
  have hnodup : (plan.steps.map Step.id).Nodup := by
    rw [hplan.map_id_steps]
    exact hplan.represents.nodup_order
  rw [← hplan.map_id_steps, RunRequest.visitInstances_eq hnodes hnodup htable,
    RunRequest.visitAll_of_steps]

/-- **No task is missing.** A run from a table of tasks makes the visits of a run along the steps of
a plan and ends as that does. -/
theorem Workflow.runInstances_eq (w : Workflow) (context : RunContext)
    (cancellation : Cancellation) :
    w.runInstances context cancellation = ((w.run context cancellation).history,
      (w.run context cancellation).result.mapError .error) := by
  rw [runInstances, run]
  cases h : Plan.ofWorkflow w with
  | error e =>
    rw [prepare_eq_error h]
    rfl
  | ok plan =>
    have hplan := Plan.ofWorkflow_eq_ok_iff.mp h
    obtain ⟨table, hprepare, htable⟩ := exists_prepare h
    rw [hprepare, ← hplan.settings_eq]
    dsimp only
    rw [hplan.visitInstances_eq htable, RunRequest.run]
    rcases RunRequest.visitAll ⟨plan, context, cancellation⟩ plan.steps [] with ⟨h, _ | e⟩ <;> rfl

end FlowRouting
