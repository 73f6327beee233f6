import FlowRouting.Proofs.Run.Locality
import FlowRouting.Proofs.Run.Resolution

/-!
# Where inputs come from

A node with incoming edges gets its inputs from them and from nowhere else. An edge brings a value
if it is active, names a field of its source and an input of its target, and if the source completed
without taking a path and put out the field; an edge that brings nothing leaves what other edges
have brought.

The inputs are put together when the turn of the node comes, from what the nodes before it have
done. These include the sources of all of its edges, and each node is visited once, so what an edge
brings can be read off the history of the whole run, in which nothing is overwritten. A source that
completed without taking a path is no condition, because conditions take one.
-/

namespace FlowRouting

/-! ## What an edge brings -/

/-- An edge brings a value to an input of its target, by the visits of a history: it is active, both
of its handles are set, and its source completed without taking a path and put out the value in the
field under the source handle. -/
structure Edge.Brings (e : Edge) (h : History) (input : String) (value : Value) : Prop where
  active : e.isActive h = true
  target : e.targetHandle = some input
  source : ∃ field v output, e.sourceHandle = some field ∧ v ∈ h ∧ v.nodeId = e.source ∧
    v.output? = some output ∧ output.branch = none ∧ output.outputs.get? field = some value

section History

variable {e : Edge} {h h' : History} {input : String} {value : Value}

private theorem Edge.carried?_eq_some_iff : e.carried? h = some (input, value) ↔
    h.routes.get? e.source = none ∧ ∃ field outputs, e.sourceHandle = some field ∧
      e.targetHandle = some input ∧ h.outputs.get? e.source = some outputs ∧
        outputs.get? field = some value := by
  rw [carried?]
  cases h.routes.get? e.source with
  | some branch => simp
  | none =>
    cases e.sourceHandle <;> cases e.targetHandle <;> cases h.outputs.get? e.source <;>
      simp [Option.bind_eq_some_iff, and_comm]

private theorem Edge.brings_iff (hnodup : (h.map Visit.nodeId).Nodup) :
    e.Brings h input value ↔ e.carried? h = some (input, value) := by
  rw [carried?_eq_some_iff]
  constructor
  · rintro ⟨-, htarget, field, v, output, hfield, hv, hid, houtput, hbranch, hvalue⟩
    have hroute : h.routes.get? e.source = none := by
      rw [History.routes_eq_collect, ← hid, History.get?_collect_of_mem hnodup hv, houtput]
      exact hbranch
    have houtputs : h.outputs.get? e.source = some output.outputs := by
      rw [History.outputs_eq_collect, ← hid, History.get?_collect_of_mem hnodup hv, houtput]
      rfl
    exact ⟨hroute, field, output.outputs, hfield, htarget, houtputs, hvalue⟩
  · rintro ⟨hroute, field, outputs, hfield, htarget, houtputs, hvalue⟩
    rw [History.outputs_eq_collect, History.get?_collect_eq_some_iff hnodup] at houtputs
    obtain ⟨v, hv, hid, houtputs⟩ := houtputs
    obtain ⟨output, houtput, rfl⟩ := Option.map_eq_some_iff.mp houtputs
    have hbranch : output.branch = none := by
      rw [History.routes_eq_collect, ← hid, History.get?_collect_of_mem hnodup hv,
        houtput] at hroute
      exact hroute
    -- A node that completed was not skipped.
    have hfinished : e.source ∈ h.finished := by
      rw [← hid, History.finished, History.mem_map_nodeId_filter_iff hnodup hv]
      cases v with
      | skipped id => cases houtput
      | executed => rfl
    exact ⟨Edge.isActive_iff.mpr ⟨hfinished, .inl hroute⟩, htarget, field, v, output, hfield, hv,
      hid, houtput, hbranch, hvalue⟩

private theorem Edge.brings_append_iff (hnodup : ((h ++ h').map Visit.nodeId).Nodup)
    (hsource : e.source ∈ h.map Visit.nodeId) :
    e.Brings (h ++ h') input value ↔ e.Brings h input value := by
  rw [List.map_append] at hnodup
  obtain ⟨hbefore, -, hdisjoint⟩ := List.nodup_append.mp hnodup
  -- The source is visited once, so the later visits say nothing about it.
  have hlater : e.source ∉ h'.map Visit.nodeId := fun hmem ↦ hdisjoint _ hsource _ hmem rfl
  rw [brings_iff hbefore, brings_iff (by rwa [List.map_append]),
    Edge.carried?_congr (History.SameAt.append hlater)]

theorem Edge.Brings.completed (hbrings : e.Brings h input value)
    (hnodup : (h.map Visit.nodeId).Nodup) :
    e.source ∈ h.completed ∧ e.source ∉ h.skipped ∧ e.source ∉ h.failed := by
  obtain ⟨-, v, output, -, hv, hid, houtput, -⟩ := hbrings.source
  rw [← hid, History.completed, History.skipped, History.failed,
    History.mem_map_nodeId_filter_iff hnodup hv, History.mem_map_nodeId_filter_iff hnodup hv,
    History.mem_map_nodeId_filter_iff hnodup hv, ← not_or, ← Visit.output?_eq_none_iff, houtput]
  exact ⟨rfl, Option.some_ne_none output⟩

end History

/-! ## Inputs at a visit -/

/-- The inputs of a node by a run: those to which the edges of the workflow to the node bring
something, and of several values for one input the one that the last of these edges brings. What
brings something is a node that completed and is no condition. -/
structure Run.Wires (run : Run) (w : Workflow) (id : String) (inputs : Fields) : Prop where
  mem_keys_iff : ∀ input, input ∈ inputs.keys ↔
    ∃ e ∈ w.edges, e.target = id ∧ ∃ value, e.Brings run.history input value
  get?_eq_some_iff : ∀ input value, inputs.get? input = some value ↔
    ∃ earlier e later, w.edges = earlier ++ e :: later ∧ e.target = id ∧
      e.Brings run.history input value ∧
        ∀ e' ∈ later, e'.target = id → ∀ other, ¬e'.Brings run.history input other
  source : ∀ e ∈ w.edges, e.target = id → ∀ input value, e.Brings run.history input value →
    e.source ∈ run.history.completed ∧ e.source ∉ run.history.skipped ∧
      e.source ∉ run.history.failed ∧
        ∀ spec ∈ w.nodes, spec.id = e.source → spec.isCondition = false

namespace RunRequest

variable {w : Workflow} {r : RunRequest} {before after : History} {v : Visit}

private theorem get?_carriedInputs_eq_some_iff (hplan : r.plan.Realizes w) {h : History}
    (hnodup : (h.map Visit.nodeId).Nodup) {id input : String} {value : Value} :
    (carriedInputs (r.activeEdges h id) h).get? input = some value ↔
      ∃ earlier e later, w.edges = earlier ++ e :: later ∧
        (e.target = id ∧ e.Brings h input value) ∧
          ∀ e' ∈ later, ∀ other, ¬(e'.target = id ∧ e'.Brings h input other) := by
  -- The edges to a node that are active are picked out of all edges at once.
  have hpick : ∀ (e : Edge) (value : Value),
      (if (e.isActive h && e.target == id) = true then e.carried? h else none) =
        some (input, value) ↔ e.target = id ∧ e.Brings h input value := by
    intro e value
    rw [Option.ite_none_right_eq_some, Bool.and_eq_true, beq_iff_eq, ← Edge.brings_iff hnodup]
    constructor
    · rintro ⟨⟨-, htarget⟩, hbrings⟩
      exact ⟨htarget, hbrings⟩
    · rintro ⟨htarget, hbrings⟩
      exact ⟨⟨hbrings.active, htarget⟩, hbrings⟩
  rw [carriedInputs, activeEdges, Graph.incoming, hplan.represents.edges_eq, List.filter_filter,
    List.filterMap_filter, Dict.get?_ofList_filterMap_eq_some_iff]
  simp only [ne_eq, hpick]

private theorem inputs_nodeContext {h : History} {n : NamedNode}
    (hne : r.plan.graph.incoming n.id ≠ []) :
    (r.nodeContext h n).inputs = carriedInputs (r.activeEdges h n.id) h := by
  have hisEmpty : (r.plan.graph.incoming n.id).isEmpty = false :=
    List.isEmpty_eq_false_iff.mpr hne
  rw [nodeContext]
  simp only [hisEmpty, Bool.false_eq_true, if_false]

private theorem isCondition_eq_false (hplan : r.plan.Realizes w) (hv : v ∈ r.run.history)
    {output : NodeOutput} (houtput : v.output? = some output) (hbranch : output.branch = none)
    {spec : NodeSpec} (hspec : spec ∈ w.nodes) (hid : spec.id = v.nodeId) :
    spec.isCondition = false := by
  obtain ⟨before, after, hhistory⟩ := List.append_of_mem hv
  obtain ⟨s, hs, rfl, -⟩ := exists_step_behind_ancestors hplan hhistory
  have htakes := isSome_branch_iff (hplan.task_eq s hs) (result_of_output? houtput)
  rw [hbranch, Option.isSome_none] at htakes
  rw [nodeId_visit] at hid
  have hnode : spec = s.node.spec :=
    List.inj_on_of_nodup_map hplan.represents.nodup_ids hspec
      (hplan.represents.spec_mem (hplan.node_mem hs)) hid
  rw [hnode, ← Bool.not_eq_true]
  exact fun hcondition ↦ Bool.false_ne_true (htakes.mpr hcondition)

section Node

variable {n : NamedNode} (hplan : r.plan.Realizes w)
  (hhistory : r.run.history = before ++ v :: after)
  (hancestors : ∀ m ∈ r.plan.graph.ancestors n.id, m.id ∈ before.map Visit.nodeId)

include hplan hhistory hancestors

/-- When the turn of a node comes, what an edge to it brings does not change any more. -/
theorem brings_iff_of_target {e : Edge} (he : e ∈ w.edges) (htarget : e.target = n.id)
    {input : String} {value : Value} :
    e.Brings before input value ↔ e.Brings r.run.history input value := by
  have hnodup := nodup_map_nodeId_run hplan
  rw [← hplan.represents.edges_eq] at he
  obtain ⟨m, hm, hsource⟩ := List.mem_map.mp
    (hplan.represents.source_mem_ancestors (Graph.mem_incoming_iff.mpr ⟨he, htarget⟩))
  rw [hhistory] at hnodup ⊢
  exact (Edge.brings_append_iff hnodup (hsource ▸ hancestors m hm)).symm

/-- Of what the edges to a node bring in a run the last one wins. -/
theorem get?_inputs_eq_some_iff (hne : r.plan.graph.incoming n.id ≠ []) {input : String}
    {value : Value} : (r.nodeContext before n).inputs.get? input = some value ↔
      ∃ earlier e later, w.edges = earlier ++ e :: later ∧ e.target = n.id ∧
        e.Brings r.run.history input value ∧
          ∀ e' ∈ later, e'.target = n.id → ∀ other, ¬e'.Brings r.run.history input other := by
  have hbefore : (before.map Visit.nodeId).Nodup := by
    have hnodup := nodup_map_nodeId_run hplan
    rw [hhistory, List.map_append] at hnodup
    exact (List.nodup_append.mp hnodup).1
  have hsettled : ∀ e ∈ w.edges, e.target = n.id → ∀ input value,
      e.Brings before input value ↔ e.Brings r.run.history input value :=
    fun e he htarget _ _ ↦ brings_iff_of_target hplan hhistory hancestors he htarget
  rw [inputs_nodeContext hne, get?_carriedInputs_eq_some_iff hplan hbefore]
  constructor
  · rintro ⟨earlier, e, later, hedges, ⟨htarget, hbrings⟩, hlater⟩
    refine ⟨earlier, e, later, hedges, htarget,
      (hsettled e (by simp [hedges]) htarget input value).mp hbrings, ?_⟩
    intro e' he' htarget' other hother
    exact hlater e' he' other
      ⟨htarget', (hsettled e' (by simp [hedges, he']) htarget' input other).mpr hother⟩
  · rintro ⟨earlier, e, later, hedges, htarget, hbrings, hlater⟩
    refine ⟨earlier, e, later, hedges,
      ⟨htarget, (hsettled e (by simp [hedges]) htarget input value).mpr hbrings⟩, ?_⟩
    rintro e' he' other ⟨htarget', hother⟩
    exact hlater e' he' htarget' other
      ((hsettled e' (by simp [hedges, he']) htarget' input other).mp hother)

private theorem wires_inputs (hne : r.plan.graph.incoming n.id ≠ []) :
    r.run.Wires w n.id (r.nodeContext before n).inputs where
  mem_keys_iff input := by
    rw [Dict.mem_keys_iff, Option.isSome_iff_exists]
    constructor
    · rintro ⟨value, hvalue⟩
      obtain ⟨earlier, e, later, hedges, htarget, hbrings, -⟩ :=
        (get?_inputs_eq_some_iff hplan hhistory hancestors hne).mp hvalue
      exact ⟨e, by simp [hedges], htarget, value, hbrings⟩
    · rintro ⟨e, he, htarget, value, hbrings⟩
      obtain ⟨earlier, e, later, hedges, ⟨htarget, value, hbrings⟩, hlater⟩ :=
        exists_last (p := fun e ↦ e.target = n.id ∧ ∃ value, e.Brings r.run.history input value)
          ⟨e, he, htarget, value, hbrings⟩
      refine ⟨value, (get?_inputs_eq_some_iff hplan hhistory hancestors hne).mpr
        ⟨earlier, e, later, hedges, htarget, hbrings, ?_⟩⟩
      exact fun e' he' htarget' other hother ↦ hlater e' he' ⟨htarget', other, hother⟩
  get?_eq_some_iff _ _ := get?_inputs_eq_some_iff hplan hhistory hancestors hne
  source e _ _ input value hbrings := by
    obtain ⟨hcompleted, hskipped, hfailed⟩ := hbrings.completed (nodup_map_nodeId_run hplan)
    obtain ⟨-, u, output, -, hu, hsource, houtput, hbranch, -⟩ := hbrings.source
    exact ⟨hcompleted, hskipped, hfailed, fun spec hspec heq ↦
      isCondition_eq_false hplan hu houtput hbranch hspec (heq.trans hsource.symm)⟩

end Node

end RunRequest

section Run

variable {w : Workflow} {context : RunContext} {cancellation : Cancellation}
  {before after : History} {v : Visit}

/-- **Inputs come from edges.** A node that a run starts, and to which edges lead, is executed with
inputs that are wired: there is a value for an input exactly if an edge to the node brings one, and
it is the one that the last of these edges in the order of the workflow brings. An edge that brings
a value is active, and its source completed and is no condition. The run input plays no part. -/
theorem inputs_wired (hhistory : (w.run context cancellation).history = before ++ v :: after)
    (hstarted : v.isSkipped = false) (hincoming : ∃ e ∈ w.edges, e.target = v.nodeId) :
    ∃ plan s ctx, Plan.ofWorkflow w = .ok plan ∧ s ∈ plan.steps ∧
      ctx = RunRequest.nodeContext ⟨plan, context, cancellation⟩ before s.node ∧
      v = .executed s.id s.node.spec.nodeType (s.task.execute ctx).notes
        ((s.task.execute ctx).finish (plan.settings.maxExecutionTimeMs.map UInt64.toNat)
          cancellation before.clock) ∧
      (w.run context cancellation).Wires w v.nodeId ctx.inputs ∧
      ∀ input, (RunRequest.nodeContext ⟨plan, { context with input }, cancellation⟩ before
        s.node).inputs = ctx.inputs := by
  obtain ⟨plan, -, hplan, -, -⟩ := exists_step_of_visit hhistory
  have hrealizes := Plan.ofWorkflow_eq_ok_iff.mp hplan
  have hrun : w.run context cancellation = RunRequest.run ⟨plan, context, cancellation⟩ :=
    run_eq_of_plan hplan
  rw [hrun] at hhistory ⊢
  obtain ⟨s, hs, hv, hancestors, -⟩ := RunRequest.exists_step_behind_ancestors
    (r := ⟨plan, context, cancellation⟩) hrealizes hhistory
  have hid : v.nodeId = s.node.id := by
    rw [hv, RunRequest.nodeId_visit]
    rfl
  have hne : plan.graph.incoming s.node.id ≠ [] := by
    obtain ⟨e, he, htarget⟩ := hincoming
    rw [← hrealizes.represents.edges_eq] at he
    exact List.ne_nil_of_mem (Graph.mem_incoming_iff.mpr ⟨he, htarget.trans hid⟩)
  have hwires := RunRequest.wires_inputs hrealizes hhistory hancestors hne
  rw [← hid] at hwires
  refine ⟨plan, s, _, hplan, hs, rfl, ?_, hwires, fun input ↦ ?_⟩
  · by_cases hskip : RunRequest.Skips ⟨plan, context, cancellation⟩ before s
    · rw [hv, RunRequest.visit_of_skips hskip] at hstarted
      cases hstarted
    · rw [hv, RunRequest.visit_of_not_skips hskip]
      rfl
  · rw [RunRequest.inputs_nodeContext hne, RunRequest.inputs_nodeContext hne]
    rfl

end Run

/-! ### Six edges for one message -/

/-- A node that reports a message. Two texts and a missing field, a text that is not JSON, the path
of a condition and what is behind its other path are all to be the message. -/
def contested : Workflow where
  id := Uuid.nil
  name := "contested"
  nodes :=
    [{ id := "draft", nodeType := "text", displayName := some "Draft"
       config := [("template", .text "first")] },
      { id := "review", nodeType := "text", displayName := some "Review"
        config := [("template", .text "second")] },
      { id := "broken", nodeType := "transform.json_parse", displayName := some "Broken"
        config := [("json", .text "[")] },
      { id := "gate", nodeType := "condition", displayName := some "Gate"
        config := Condition.toFields
          ⟨[⟨"open", "Open", [], .and⟩, ⟨"else", "Else", [], .and⟩], none, none⟩ },
      { id := "untaken", nodeType := "text", displayName := some "Untaken"
        config := [("template", .text "third")] },
      { id := "desk", nodeType := "debug.log", displayName := some "Desk" }]
  edges :=
    [{ source := "gate", target := "untaken", sourceHandle := some "else" },
      { source := "draft", target := "desk", sourceHandle := some "text"
        targetHandle := some "message" },
      { source := "review", target := "desk", sourceHandle := some "text"
        targetHandle := some "message" },
      { source := "review", target := "desk", sourceHandle := some "missing"
        targetHandle := some "message" },
      { source := "broken", target := "desk", sourceHandle := some "parsed"
        targetHandle := some "message" },
      { source := "gate", target := "desk", sourceHandle := some "open"
        targetHandle := some "message" },
      { source := "untaken", target := "desk", sourceHandle := some "text"
        targetHandle := some "message" }]
  settings := { onError := .continueOnError }

/-- The message is the text of the second of the edges: it is there, and the edges behind it bring
nothing. -/
theorem inputs_wired_contested :
    ∃ before v after plan s ctx,
      (contested.run exampleContext .never).history = before ++ v :: after ∧ v.nodeId = "desk" ∧
        v.isSkipped = false ∧ Plan.ofWorkflow contested = .ok plan ∧ s ∈ plan.steps ∧
          ctx = RunRequest.nodeContext ⟨plan, exampleContext, .never⟩ before s.node ∧
            (ctx.inputs.get? "message").bind Value.asText? = some "second" := by
  have hnodup : ((contested.run exampleContext .never).history.map Visit.nodeId).Nodup := by
    decide +kernel
  obtain ⟨before, v, after, hhistory, hid⟩ := History.exists_visit_of_id
    (show "desk" ∈ (contested.run exampleContext .never).history.map Visit.nodeId by
      decide +kernel)
  have hstarted : v.isSkipped = false := by
    have hnot : "desk" ∉ (contested.run exampleContext .never).history.skipped := by
      decide +kernel
    rw [← hid, History.skipped, History.mem_map_nodeId_filter_iff hnodup (by simp [hhistory])]
      at hnot
    exact Bool.eq_false_iff.mpr hnot
  obtain ⟨plan, s, ctx, hplan, hs, hctx, -, hwires, -⟩ := inputs_wired hhistory hstarted
    (by rw [hid]; decide)
  obtain ⟨⟨input, value⟩, hcarried, hsecond⟩ := Option.map_eq_some_iff.mp
    (show ((contested.edges[2].carried? (contested.run exampleContext .never).history).map
      fun entry ↦ (entry.1, entry.2.asText?)) = some ("message", some "second") by decide +kernel)
  obtain ⟨rfl, htext⟩ := Prod.mk.inj hsecond
  have hnone : ∀ e ∈ contested.edges.drop 3,
      (e.carried? (contested.run exampleContext .never).history).isNone := by decide +kernel
  have hmessage : ctx.inputs.get? "message" = some value := by
    refine (hwires.get?_eq_some_iff _ _).mpr ⟨contested.edges.take 2, contested.edges[2],
      contested.edges.drop 3, rfl, hid.symm, (Edge.brings_iff hnodup).mpr hcarried, ?_⟩
    intro e he _ other hother
    rw [Edge.brings_iff hnodup] at hother
    exact Option.some_ne_none _ (hother.symm.trans (Option.isNone_iff_eq_none.mp (hnone e he)))
  exact ⟨before, v, after, plan, s, ctx, hhistory, hid, hstarted, hplan, hs, hctx,
    by rw [hmessage]; exact htext⟩

end FlowRouting
