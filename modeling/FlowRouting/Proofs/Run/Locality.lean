import FlowRouting.Proofs.Graph.Ancestors
import FlowRouting.Proofs.Run.Activity
import FlowRouting.Proofs.Scope.Binding

/-!
# What a visit depends on

A node is handed the outputs of all nodes that completed before it, whether it is connected to them
or not. Which of them it can see is decided by names alone, and names stand for ancestors; which
edges lead to it is decided by their sources, and these are ancestors too. So two histories that
tell the same about the ancestors of a node lead to the same visit: `visit_congr`.

The clock is what is left. It only matters to a run that may be cancelled; a run that nobody
cancels visits every node as if the history of the whole run were known beforehand, because what
comes later says nothing about ancestors. This turns the history, which is a left fold, into a
plain map over the steps: `fullHistory_eq_map`.
-/

namespace FlowRouting

/-! ## Histories that tell the same about a node -/

/-- Two histories tell the same about a node. -/
structure History.SameAt (h h' : History) (id : String) : Prop where
  finished : id ∈ h.finished ↔ id ∈ h'.finished
  route : h.routes.get? id = h'.routes.get? id
  outputs : h.outputs.get? id = h'.outputs.get? id

namespace History.SameAt

variable {h h' : History}

theorem append {id : String} (hid : id ∉ h'.map Visit.nodeId) : SameAt (h ++ h') h id where
  finished := mem_finished_append_iff hid
  route := get?_routes_append hid
  outputs := by
    rw [outputs_eq_collect, outputs_eq_collect, get?_collect_append hid]

theorem of_mem (hnodup : (h.map Visit.nodeId).Nodup) (hnodup' : (h'.map Visit.nodeId).Nodup)
    {v : Visit} (hv : v ∈ h) (hv' : v ∈ h') : SameAt h h' v.nodeId where
  finished := by
    rw [History.finished, History.finished, mem_map_nodeId_filter_iff hnodup hv,
      mem_map_nodeId_filter_iff hnodup' hv']
  route := by
    rw [routes_eq_collect, routes_eq_collect, get?_collect_of_mem hnodup hv,
      get?_collect_of_mem hnodup' hv']
  outputs := by
    rw [outputs_eq_collect, outputs_eq_collect, get?_collect_of_mem hnodup hv,
      get?_collect_of_mem hnodup' hv']

end History.SameAt

/-! ## What is read off a history -/

section Congruence

variable {h h' : History}

private theorem Edge.isActive_congr {e : Edge} (hsame : h.SameAt h' e.source) :
    e.isActive h = e.isActive h' := by
  rw [Bool.eq_iff_iff, Edge.isActive_iff, Edge.isActive_iff, hsame.finished, hsame.route]

theorem Edge.carried?_congr {e : Edge} (hsame : h.SameAt h' e.source) :
    e.carried? h = e.carried? h' := by
  rw [Edge.carried?, Edge.carried?, hsame.route, hsame.outputs]

private theorem carriedInputs_congr {edges : List Edge}
    (hsame : ∀ e ∈ edges, h.SameAt h' e.source) :
    carriedInputs edges h = carriedInputs edges h' := by
  rw [carriedInputs, carriedInputs]
  exact congrArg Dict.ofList
    (List.filterMap_congr fun e he ↦ Edge.carried?_congr (hsame e he))

/-- What a scope resolves depends on the outputs of its nodes only, and not on their order. -/
theorem Scope.resolve_congr {s s' : Scope} (hnodes : s.nodes.Perm s'.nodes) (hrun : s.run = s'.run)
    (houtputs : ∀ n ∈ s.nodes, s.outputs.get? n.id = s'.outputs.get? n.id) :
    s.resolve = s'.resolve := by
  funext reference
  have hbinding : binding? s.nodes (Reference.split reference).scope =
      binding? s'.nodes (Reference.split reference).scope := binding?_eq_of_perm hnodes
  rw [Scope.resolve, Scope.resolve, hrun, ← hbinding]
  split
  · rfl
  · split
    · rfl
    · cases hbound : binding? s.nodes (Reference.split reference).scope with
      | none => rfl
      | some b =>
        cases b with
        | ambiguous ids => rfl
        | node id =>
          obtain ⟨n, hn, rfl⟩ := exists_goesBy_of_binding? hbound
          simp only [houtputs n hn.1]

end Congruence

/-! ## Runs that nobody cancels -/

namespace Plan

variable (plan : Plan) (context : RunContext)

/-- The run of a plan in a context, without a cancellation. -/
def uncancelled : RunRequest :=
  ⟨plan, context, .never⟩

/-- The history of such a run if nothing stops it. -/
def fullHistory : History :=
  (plan.uncancelled context).visits [] plan.steps

/-- The visit of a step if the history of the whole run is known. -/
def finalVisit (s : Step) : Visit :=
  (plan.uncancelled context).visit (plan.fullHistory context) s

@[simp] theorem nodeId_finalVisit (s : Step) : (plan.finalVisit context s).nodeId = s.id :=
  RunRequest.nodeId_visit _ _ s

variable {plan} {context} {plan' : Plan} {w : Workflow}

/-- **A visit depends on the ancestors only.** A step is visited alike in two plans with the same
edges to its node and the same nodes above it, if the histories tell the same about these. -/
theorem visit_congr (hplan : plan.Realizes w) (hsettings : plan'.settings = plan.settings)
    {s : Step} (hincoming : plan'.graph.incoming s.id = plan.graph.incoming s.id)
    (hancestors : (plan'.graph.ancestors s.id).Perm (plan.graph.ancestors s.id)) {h h' : History}
    (hsame : ∀ id ∈ (plan.graph.ancestors s.id).map NamedNode.id, h'.SameAt h id) :
    (plan'.uncancelled context).visit h' s = (plan.uncancelled context).visit h s := by
  have hsources : ∀ e ∈ plan.graph.incoming s.id, h'.SameAt h e.source := fun e he ↦
    hsame e.source (hplan.represents.source_mem_ancestors he)
  have hactive : (plan'.uncancelled context).activeEdges h' s.id =
      (plan.uncancelled context).activeEdges h s.id := by
    rw [RunRequest.activeEdges, RunRequest.activeEdges, uncancelled, uncancelled, hincoming]
    exact List.filter_congr fun e he ↦ Edge.isActive_congr (hsources e he)
  have hinputs : carriedInputs ((plan.uncancelled context).activeEdges h s.id) h' =
      carriedInputs ((plan.uncancelled context).activeEdges h s.id) h :=
    carriedInputs_congr fun e he ↦ hsources e (List.mem_of_mem_filter he)
  have hbindings : (plan'.graph.scope s.id h'.outputs context).resolve =
      (plan.graph.scope s.id h.outputs context).resolve :=
    Scope.resolve_congr hancestors rfl fun n hn ↦
      (hsame n.id (List.mem_map_of_mem (hancestors.mem_iff.mp hn))).outputs
  have hcontext : (plan'.uncancelled context).nodeContext h' s.node =
      (plan.uncancelled context).nodeContext h s.node := by
    rw [RunRequest.nodeContext, RunRequest.nodeContext]
    show NodeContext.mk _ (if (plan'.graph.incoming s.id).isEmpty then _ else
      carriedInputs ((plan'.uncancelled context).activeEdges h' s.id) h')
      (plan'.graph.scope s.id h'.outputs context).resolve plan'.settings.routing = _
    rw [hincoming, hactive, hinputs, hbindings, hsettings]
    rfl
  rw [RunRequest.visit, RunRequest.visit, hactive, hcontext]
  show (if (!(plan'.graph.incoming s.id).isEmpty && _) = true then _ else
    Visit.executed _ _ _
      (Execution.finish _ (plan'.settings.maxExecutionTimeMs.map _) .never _)) = _
  rw [hincoming, hsettings]
  -- The clocks may differ, but without a cancellation they make no difference.
  rfl

/-! ## The whole history decides -/

theorem nodup_fullHistory (hplan : plan.Realizes w) (context : RunContext) :
    ((plan.fullHistory context).map Visit.nodeId).Nodup :=
  nodup_map_nodeId_visits (r := plan.uncancelled context) hplan

end Plan

namespace RunRequest

variable {r : RunRequest}

/-- Visits in a row are a map if each of them is known to be that of a function. -/
theorem visits_eq_map {f : Step → Visit} {h : History} {steps : List Step}
    (hf : ∀ prior s rest, steps = prior ++ s :: rest → r.visit (h ++ r.visits h prior) s = f s) :
    r.visits h steps = steps.map f := by
  induction steps generalizing h with
  | nil => rfl
  | cons s steps ih =>
    have hs : r.visit h s = f s := by
      have h0 := hf [] s steps rfl
      rwa [visits_nil, List.append_nil] at h0
    rw [visits_cons, List.map_cons, ih, hs]
    intro prior t rest hsplit
    have ht := hf (s :: prior) t rest (by rw [hsplit, List.cons_append])
    rwa [visits_cons, ← List.singleton_append, ← List.append_assoc] at ht

end RunRequest

namespace Plan

variable {plan : Plan} {context : RunContext} {w : Workflow}

/-- The history of a run that nobody cancels maps every step to its visit in view of that whole
history. -/
theorem fullHistory_eq_map (hplan : plan.Realizes w) :
    plan.fullHistory context = plan.steps.map (plan.finalVisit context) := by
  refine RunRequest.visits_eq_map fun prior s rest hsteps ↦ ?_
  rw [List.nil_append]
  refine visit_congr hplan rfl rfl (.refl _) fun id hid ↦ ?_
  have hrest : id ∉ (s :: rest).map Step.id :=
    notMem_rest_of_idxOf_lt (r := plan.uncancelled context) hplan hsteps
      (hplan.represents.idxOf_lt_of_mem_ancestors hid)
  -- The visits from the step on are not of its ancestors.
  let before := (plan.uncancelled context).visits [] prior
  let later := (plan.uncancelled context).visits ([] ++ before) (s :: rest)
  have hlater : History.SameAt (before ++ later) before id := by
    refine History.SameAt.append ?_
    rwa [RunRequest.map_nodeId_visits]
  rw [fullHistory, hsteps, RunRequest.visits_append]
  exact ⟨hlater.finished.symm, hlater.route.symm, hlater.outputs.symm⟩

end Plan

end FlowRouting
