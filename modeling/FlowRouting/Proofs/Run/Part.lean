import FlowRouting.Proofs.Run.Locality
import FlowRouting.Proofs.Validation.Acceptance

/-!
# Runs of a part

A run of a part of a workflow visits its nodes exactly as a run of the whole workflow does, if
nobody cancels either. By induction along the topological order of the part: the ancestors of a node
are the same in both, their visits are the same by induction, and a visit depends on nothing else. A
part therefore comes to a result if the whole does.
-/

namespace FlowRouting

/-! ## Steps of a plan -/

def NamedNode.step? (n : NamedNode) : Option Step :=
  n.spec.task.toOption.map fun task ↦ ⟨n, task⟩

theorem NamedNode.node_of_step? {n : NamedNode} {s : Step} (h : n.step? = some s) : s.node = n := by
  obtain ⟨task, _, rfl⟩ := Option.map_eq_some_iff.mp h
  rfl

theorem Plan.Realizes.steps_eq {plan : Plan} {w : Workflow} (h : plan.Realizes w) :
    plan.steps = plan.graph.nodes.filterMap NamedNode.step? := by
  have hstep : ∀ s ∈ plan.steps, (NamedNode.step? ∘ Step.node) s = some s := by
    intro s hs
    rw [Function.comp_apply, NamedNode.step?, h.task_eq s hs]
    rfl
  rw [← h.nodes_eq, List.filterMap_map, List.filterMap_congr hstep, List.filterMap_some]

theorem Plan.Realizes.mem_steps_iff {plan : Plan} {w : Workflow} (h : plan.Realizes w) {s : Step} :
    s ∈ plan.steps ↔ s.node ∈ plan.graph.nodes ∧ s.node.step? = some s := by
  rw [h.steps_eq, List.mem_filterMap]
  constructor
  · rintro ⟨n, hn, hs⟩
    have hnode := NamedNode.node_of_step? hs
    subst hnode
    exact ⟨hn, hs⟩
  · rintro ⟨hn, hs⟩
    exact ⟨s.node, hn, hs⟩

/-! ## When a run comes to a result -/

namespace RunRequest

variable {r : RunRequest}

private theorem stop?_congr {r' : RunRequest} (h : r'.plan.settings = r.plan.settings) {s : Step}
    {v : Visit} : r'.stop? s v = r.stop? s v := by
  simp only [stop?, h]

/-- A run that nobody cancels gets through exactly if none of the visits stops it. -/
theorem visitAll_eq_none_iff (hnever : r.cancellation = .never) {steps : List Step} {h : History} :
    (r.visitAll steps h).2 = none ↔
      ∀ p ∈ steps.zip (r.visits h steps), r.stop? p.1 p.2 = none := by
  induction steps generalizing h with
  | nil => simp [visitAll]
  | cons s steps ih =>
    have hdue : r.cancellation.isDue h.clock = false := by
      rw [hnever]
      rfl
    rw [visitAll, hdue, visits_cons, List.zip_cons_cons, List.forall_mem_cons]
    simp only [Bool.false_eq_true, if_false]
    cases hstop : r.stop? s (r.visit h s) with
    | some e => simp
    | none =>
      simp only [true_and]
      exact ih

end RunRequest

namespace Plan

variable {plan : Plan} {w : Workflow} {context : RunContext}

/-- Nothing stops a run of the plan that nobody cancels. -/
def GetsThrough (plan : Plan) (context : RunContext) : Prop :=
  ∀ s ∈ plan.steps, (plan.uncancelled context).stop? s (plan.finalVisit context s) = none

private theorem visitAll_uncancelled (hplan : plan.Realizes w) :
    ((plan.uncancelled context).visitAll plan.steps []).2 = none ↔ plan.GetsThrough context := by
  rw [RunRequest.visitAll_eq_none_iff rfl, ← fullHistory, fullHistory_eq_map hplan,
    ← List.map_prod_left_eq_zip, GetsThrough, List.forall_mem_map]

/-- A run that nobody cancels comes to a result exactly if nothing stops it, and the result is then
that of its full history. -/
theorem run_eq_ok_iff (hplan : Plan.ofWorkflow w = .ok plan) {res : RunResult} :
    (w.run context .never).result = .ok res ↔ plan.GetsThrough context ∧
      res = .ofHistory context.executionId plan.graph.nodes.length (plan.fullHistory context) := by
  have hrun : w.run context .never = (plan.uncancelled context).run := run_eq_of_plan hplan
  obtain ⟨done, rest, hsteps, hhistory, hrest⟩ :=
    RunRequest.exists_visits_of_visitAll (r := plan.uncancelled context) plan.steps []
  rw [List.nil_append] at hhistory
  have hfull : ((plan.uncancelled context).visitAll plan.steps []).2 = none →
      ((plan.uncancelled context).visitAll plan.steps []).1 = plan.fullHistory context := by
    intro hnone
    rw [hrest hnone, List.append_nil] at hsteps
    rw [hhistory, fullHistory, hsteps]
  rw [hrun, RunRequest.result_run_eq_ok_iff, ← visitAll_uncancelled
    (Plan.ofWorkflow_eq_ok_iff.mp hplan)]
  constructor
  · rintro ⟨hnone, rfl⟩
    exact ⟨hnone, by rw [← hfull hnone]; rfl⟩
  · rintro ⟨hnone, rfl⟩
    exact ⟨hnone, by rw [← hfull hnone]; rfl⟩

end Plan

/-! ## A part and the whole -/

namespace Workflow.IsPart

variable {part whole : Workflow} {plan plan' : Plan} {context : RunContext}
  (h : part.IsPart whole) (hnamed : whole.IsNamed) (hplan : plan.Realizes whole)
  (hplan' : plan'.Realizes part)

include h hnamed hplan hplan'

omit hnamed in
theorem plan_settings_eq : plan'.settings = plan.settings := by
  rw [hplan.settings_eq, hplan'.settings_eq, h.settings_eq]

theorem steps_subset : plan'.steps ⊆ plan.steps := by
  intro s hs
  obtain ⟨hnode, hstep⟩ := hplan'.mem_steps_iff.mp hs
  exact hplan.mem_steps_iff.mpr
    ⟨h.graph_nodes_subset hnamed hplan.represents hplan'.represents hnode, hstep⟩

/-- **A part is visited like the whole.** -/
theorem finalVisit_eq {s : Step} (hs : s ∈ plan'.steps) :
    plan'.finalVisit context s = plan.finalVisit context s := by
  have hids : ∀ {t}, t ∈ plan'.steps → t.id ∈ part.nodes.map NodeSpec.id := by
    intro t ht
    rw [← hplan'.represents.mem_order_iff, ← hplan'.map_id_steps]
    exact List.mem_map_of_mem ht
  -- Along the order of the part: the ancestors of a node come before it.
  induction hplace : plan'.graph.order.idxOf s.id using Nat.strongRecOn generalizing s with
  | ind place ih =>
    have hancestors := h.ancestors_perm hnamed hplan.represents hplan'.represents (hids hs)
    refine Plan.visit_congr hplan (h.plan_settings_eq hplan hplan')
      (h.incoming_eq_incoming hplan.represents hplan'.represents (hids hs)) hancestors
      fun id hid ↦ ?_
    have hid' : id ∈ (plan'.graph.ancestors s.id).map NamedNode.id :=
      (hancestors.map NamedNode.id).mem_iff.mpr hid
    have hbefore := hplan'.represents.idxOf_lt_of_mem_ancestors hid'
    rw [hplace] at hbefore
    have hmem : id ∈ plan'.steps.map Step.id := by
      obtain ⟨n, hn, rfl⟩ := List.mem_map.mp hid'
      rw [hplan'.map_id_steps]
      exact List.mem_map_of_mem (Graph.mem_nodes_of_mem_ancestors hn)
    obtain ⟨t, ht, rfl⟩ := List.mem_map.mp hmem
    -- Both histories have the same visit of the ancestor.
    have hvisit := ih _ hbefore ht rfl
    have hpart : plan'.finalVisit context t ∈ plan'.fullHistory context := by
      rw [Plan.fullHistory_eq_map hplan']
      exact List.mem_map_of_mem ht
    have hwhole : plan'.finalVisit context t ∈ plan.fullHistory context := by
      rw [hvisit, Plan.fullHistory_eq_map hplan]
      exact List.mem_map_of_mem (h.steps_subset hnamed hplan hplan' ht)
    have hsame := History.SameAt.of_mem (Plan.nodup_fullHistory hplan' context)
      (Plan.nodup_fullHistory hplan context) hpart hwhole
    rwa [Plan.nodeId_finalVisit] at hsame

theorem fullHistory_eq :
    plan'.fullHistory context = plan'.steps.map (plan.finalVisit context) := by
  rw [Plan.fullHistory_eq_map hplan']
  exact List.map_congr_left fun s hs ↦ h.finalVisit_eq hnamed hplan hplan' hs

theorem getsThrough (hthrough : plan.GetsThrough context) : plan'.GetsThrough context := by
  intro s hs
  rw [h.finalVisit_eq hnamed hplan hplan' hs, RunRequest.stop?_congr (r := plan.uncancelled context)
    (h.plan_settings_eq hplan hplan')]
  exact hthrough s (h.steps_subset hnamed hplan hplan' hs)

omit hplan hplan' in
/-- If a run of the whole gets through, then so does a run of the part, which makes the visits that
the whole makes of its steps. -/
theorem exists_run (hok : Plan.ofWorkflow whole = .ok plan) (hthrough : plan.GetsThrough context) :
    ∃ plan', Plan.ofWorkflow part = .ok plan' ∧
      (part.run context .never).result = .ok (.ofHistory context.executionId
        plan'.graph.nodes.length (plan'.steps.map (plan.finalVisit context))) := by
  obtain ⟨plan', hok'⟩ := h.exists_plan hnamed ⟨plan, hok⟩
  have hplan := Plan.ofWorkflow_eq_ok_iff.mp hok
  have hplan' := Plan.ofWorkflow_eq_ok_iff.mp hok'
  refine ⟨plan', hok', (Plan.run_eq_ok_iff hok').mpr ⟨?_, ?_⟩⟩
  · exact h.getsThrough hnamed hplan hplan' hthrough
  · rw [h.fullHistory_eq hnamed hplan hplan']

end Workflow.IsPart

end FlowRouting
