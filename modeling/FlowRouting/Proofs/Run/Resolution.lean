import FlowRouting.Proofs.Graph.Ancestors
import FlowRouting.Proofs.Run.Activity
import FlowRouting.Proofs.Run.Trace
import FlowRouting.Proofs.Validation.Coverage

/-!
# References during a run

When a run comes to a node, it has visited all ancestors of the node: they come before it in the
topological order. So a reference that is bound to an ancestor finds its outputs if the ancestor
completed, and finds none if it was skipped or failed; that it is still to come is no third case.

Of the other errors of an evaluation some are ruled out by the checks before the run: display names
differ, so no namespace is ambiguous, and conditions are well-formed, so they lack neither paths nor
texts to compare with.
-/

namespace FlowRouting

/-! ## Errors that are ruled out -/

/-- The errors that no evaluation in a run of a checked workflow ends with. -/
def EvalError.IsRuledOut : EvalError → Prop
  | .ambiguousNamespace .. | .noPaths => True
  | .invalidOperand _ _ fault => fault.text = "missing value"
  | _ => False

private theorem OperandFault.eq_missingValue_of_text {fault : OperandFault}
    (h : fault.text = "missing value") : fault = .missingValue := by
  cases fault with
  | missingValue => rfl
  | badPattern pattern =>
    refine absurd h ?_
    cases pattern <;> decide +kernel
  | unknownOperator | notNonNegative | unrecognisedDate | notTwoDates | reversedDates
  | unknownType => exact absurd h (by decide +kernel)

theorem EvalError.IsOperandFault.not_isRuledOut {e : EvalError} (h : e.IsOperandFault) :
    ¬e.IsRuledOut := by
  cases e with
  | typeMismatch operator expected found => exact not_false
  | invalidOperand operator operand fault =>
    intro htext
    rw [OperandFault.eq_missingValue_of_text htext] at h
    exact h
  | unknownVariable | notYetComputed | ambiguousNamespace | noPaths => exact h.elim

section Causes

variable {vars : Variables} {e : EvalError}

private theorem not_isRuledOut_of_cause {references : List String} {lacks : Prop}
    (hvars : ∀ reference, FailsBy (fun e ↦ ¬e.IsRuledOut) (vars reference)) (hlacks : ¬lacks)
    (h : (∃ reference ∈ references, vars reference = .error e) ∨ e.IsOperandFault ∨
      e.IsLack ∧ lacks) : ¬e.IsRuledOut := by
  rcases h with ⟨reference, _, hreference⟩ | hfault | ⟨_, hlack⟩
  · exact hvars reference e hreference
  · exact hfault.not_isRuledOut
  · exact absurd hlack hlacks

variable {c : Condition} (hformed : c.IsWellFormed)
  (hvars : ∀ reference, FailsBy (fun e ↦ ¬e.IsRuledOut) (vars reference))

include hformed hvars

theorem Condition.IsWellFormed.not_isRuledOut_of_evaluate {clause : Clause}
    (hclause : clause ∈ c.clauses) : FailsBy (fun e ↦ ¬e.IsRuledOut) (clause.evaluate vars) := by
  intro e he
  have hvalue : ¬clause.lacksValue = true := by
    rw [hformed.lacksValue clause hclause]
    exact Bool.false_ne_true
  exact not_isRuledOut_of_cause hvars hvalue (Clause.lookup_or_fault_of_evaluate he)

theorem Condition.IsWellFormed.not_isRuledOut_of_choose {mode : RoutingMode}
    (h : (Routing.choose vars mode c.paths).Meets e) : ¬e.IsRuledOut :=
  not_isRuledOut_of_cause hvars (not_not_intro hformed) (Condition.lookup_or_fault_of_choose h)

end Causes

private theorem Scope.failsBy_resolve {s : Scope}
    (hnames : (s.nodes.map NamedNode.displayName).Nodup) (reference : String) :
    FailsBy (fun e ↦ ¬e.IsRuledOut) (s.resolve reference) := by
  intro e he
  rcases unknown_or_notYetComputed hnames he with ⟨x, rfl⟩ | ⟨id, rfl⟩
  · exact not_false
  · exact not_false

/-! ## Settled nodes -/

/-- What a reference comes to that is bound to a node: the node has been visited, it has a value if
the node completed in the run, and no outputs if the node was skipped or failed, which it did only
if failures are passed over. -/
structure Run.Settles (run : Run) (w : Workflow) (before : History) (scope id : String)
    (found : Except EvalError Value) : Prop where
  visited : id ∈ before.map Visit.nodeId
  ok_iff : (∃ value, found = .ok value) ↔ id ∈ run.history.completed
  notYetComputed_iff : found = .error (.notYetComputed scope id) ↔
    id ∈ run.history.skipped ∨ id ∈ run.history.failed
  passedOver : id ∈ run.history.failed → w.settings.onError = .continueOnError

theorem Visit.output?_eq_none_iff {v : Visit} :
    v.output? = none ↔ v.isSkipped = true ∨ v.error?.isSome = true := by
  cases v with
  | skipped id => exact iff_of_true rfl (Or.inl rfl)
  | executed id nodeType notes ending =>
    rcases ending with ⟨duration, e | output⟩
    · exact iff_of_true rfl (Or.inr rfl)
    · exact iff_of_false nofun (by simp [isSkipped, error?])

/-- Behind the visits of a run the nodes that they visited are settled. -/
theorem Run.settles_of_mem {run : Run} {w : Workflow} {before rest : History}
    (hhistory : run.history = before ++ rest) (hnodup : (run.history.map Visit.nodeId).Nodup)
    (hgoes : ∀ v ∈ before, v.error?.isSome = true → w.settings.onError = .continueOnError)
    {s : Scope} (houtputs : s.outputs = before.outputs) {reference id : String}
    (hblank : (Reference.split reference).scope ≠ "")
    (hreserved : Reference.isReserved (Reference.split reference).scope = false)
    (hbound : binding? s.nodes (Reference.split reference).scope = some (.node id))
    (hid : id ∈ before.map Visit.nodeId) :
    run.Settles w before (Reference.split reference).scope id (s.resolve reference) := by
  obtain ⟨v, hv, rfl⟩ := List.mem_map.mp hid
  have hmem : v ∈ run.history := by
    rw [hhistory]
    exact List.mem_append_left _ hv
  have hnodup' : (before.map Visit.nodeId).Nodup := by
    rw [hhistory, List.map_append] at hnodup
    exact (List.nodup_append.mp hnodup).1
  have hfound : before.outputs.get? v.nodeId = v.output?.map NodeOutput.outputs := by
    rw [History.outputs_eq_collect]
    exact History.get?_collect_of_mem hnodup' hv
  -- Each node is visited once, so its one visit tells what became of it.
  have hcompleted : v.nodeId ∈ run.history.completed ↔ v.output?.isSome = true :=
    History.mem_map_nodeId_filter_iff hnodup hmem
  have hskipped : v.nodeId ∈ run.history.skipped ↔ v.isSkipped = true :=
    History.mem_map_nodeId_filter_iff hnodup hmem
  have hfailed : v.nodeId ∈ run.history.failed ↔ v.error?.isSome = true :=
    History.mem_map_nodeId_filter_iff hnodup hmem
  have hresolve := Scope.resolve_of_bound hblank hreserved hbound
  rw [houtputs, hfound] at hresolve
  refine ⟨hid, ?_, ?_, fun hmem ↦ hgoes v hv (hfailed.mp hmem)⟩
  · rw [hcompleted, hresolve]
    cases v.output? <;> simp
  · rw [hskipped, hfailed, ← Visit.output?_eq_none_iff, hresolve]
    cases v.output? <;> simp

/-! ## References at the visits of a run -/

namespace RunRequest

variable {w : Workflow} {r : RunRequest} {before after : History} {v : Visit}

/-- The visits of a run before a step include those of the ancestors of its node, and the run has
gone on behind all of them. -/
theorem exists_step_behind_ancestors (hplan : r.plan.Realizes w)
    (hhistory : r.run.history = before ++ v :: after) :
    ∃ s ∈ r.plan.steps, v = r.visit before s ∧
      (∀ n ∈ r.plan.graph.ancestors s.id, n.id ∈ before.map Visit.nodeId) ∧
      ∀ u ∈ before, r.GoesOn u := by
  obtain ⟨done, rest, hsteps, hvisits, _⟩ :=
    exists_visits_of_visitAll (r := r) r.plan.steps []
  rw [List.nil_append] at hvisits
  rw [history_run] at hhistory
  have hgoes : ∀ u ∈ (r.visitAll r.plan.steps []).1.dropLast, r.GoesOn u :=
    goesOn_of_mem_dropLast (by simp)
  rw [hhistory] at hgoes
  rw [hvisits] at hhistory
  obtain ⟨prior, s, later, rfl, rfl, hv⟩ := exists_step_of_visits_eq hhistory
  have hsplit : r.plan.steps = prior ++ s :: (later ++ rest) := by
    rw [hsteps, List.append_assoc, List.cons_append]
  refine ⟨s, by simp [hsplit], hv, fun n hn ↦ ?_, fun u hu ↦ hgoes u ?_⟩
  · -- An ancestor is some step of the plan, and it is none of those from this step on.
    have hlt := hplan.represents.idxOf_lt_of_mem_ancestors (List.mem_map_of_mem hn)
    have hnot := notMem_rest_of_idxOf_lt hplan hsplit hlt
    have hmem : n.id ∈ r.plan.steps.map Step.id := by
      rw [hplan.map_id_steps]
      exact List.mem_map_of_mem (Graph.mem_nodes_of_mem_ancestors hn)
    rw [hsplit, List.map_append, List.mem_append] at hmem
    rw [map_nodeId_visits]
    exact hmem.resolve_right hnot
  · rw [List.dropLast_append_of_ne_nil (List.cons_ne_nil _ _)]
    exact List.mem_append_left _ hu

theorem nodup_map_nodeId_run (hplan : r.plan.Realizes w) :
    (r.run.history.map Visit.nodeId).Nodup := by
  obtain ⟨done, rest, hsteps, hvisits, _⟩ :=
    exists_visits_of_visitAll (r := r) r.plan.steps []
  have hnodup := hplan.represents.nodup_order
  rw [← hplan.map_id_steps, hsteps, List.map_append] at hnodup
  rw [history_run, hvisits, List.nil_append, map_nodeId_visits]
  exact (List.nodup_append.mp hnodup).1

end RunRequest

section Run

variable {w : Workflow} {plan : Plan} {context : RunContext} {cancellation : Cancellation}
  {before after : History} {v : Visit}

private theorem nodup_displayName_ancestors (hplan : Plan.ofWorkflow w = .ok plan) (id : String) :
    ((plan.graph.ancestors id).map NamedNode.displayName).Nodup := by
  obtain ⟨warnings, hvalid⟩ := (Plan.ofWorkflow_eq_ok_iff.mp hplan).valid
  obtain ⟨uses, hpasses⟩ := Graph.exists_passes_of_validate hvalid
  have hnames := (Validation.checkDisplayNames_eq_ok_iff.mp hpasses.names).2
  exact hnames.sublist ((plan.graph.sublist_ancestors id).map NamedNode.displayName)

/-- **What references come to in a run.** At every visit of a run, a reference that is bound to an
ancestor of the node, under a namespace neither blank nor reserved, is settled: it has a value if
the ancestor completed, and it is not yet computed if the ancestor was skipped or failed. No
reference is ambiguous, no choice fails for want of paths, and no clause for want of a value to
compare with; so the node neither fails by such an error nor passes over a path because of one. -/
theorem references_settled (hplan : Plan.ofWorkflow w = .ok plan)
    (hhistory : (w.run context cancellation).history = before ++ v :: after) :
    ∃ s ∈ plan.steps, v = RunRequest.visit ⟨plan, context, cancellation⟩ before s ∧
      ∃ ctx, ctx = RunRequest.nodeContext ⟨plan, context, cancellation⟩ before s.node ∧
        (∀ reference id, (Reference.split reference).scope ≠ "" →
          Reference.isReserved (Reference.split reference).scope = false →
          binding? (plan.graph.ancestors s.id) (Reference.split reference).scope =
            some (.node id) →
          (w.run context cancellation).Settles w before (Reference.split reference).scope id
            (ctx.bindings reference)) ∧
        (∀ reference, FailsBy (fun e ↦ ¬e.IsRuledOut) (ctx.bindings reference)) ∧
        (∀ c, s.task = .condition c →
          (∀ e, (Routing.choose ctx.bindings (c.mode.getD ctx.routing) c.paths).Meets e →
            ¬e.IsRuledOut) ∧
          ∀ clause ∈ c.clauses,
            FailsBy (fun e ↦ ¬e.IsRuledOut) (clause.evaluate ctx.bindings)) ∧
        ∀ e, s.task.Meets ctx e → ¬e.IsRuledOut := by
  have hrealizes := Plan.ofWorkflow_eq_ok_iff.mp hplan
  have hrun : w.run context cancellation = RunRequest.run ⟨plan, context, cancellation⟩ :=
    run_eq_of_plan hplan
  have hnodup := RunRequest.nodup_map_nodeId_run (r := ⟨plan, context, cancellation⟩) hrealizes
  rw [← hrun] at hnodup
  obtain ⟨s, hs, hv, hancestors, hgoes⟩ := RunRequest.exists_step_behind_ancestors
    (r := ⟨plan, context, cancellation⟩) hrealizes (hrun ▸ hhistory)
  obtain ⟨ctx, hctx⟩ : ∃ ctx, ctx =
      RunRequest.nodeContext ⟨plan, context, cancellation⟩ before s.node := ⟨_, rfl⟩
  have hbindings : ctx.bindings = (plan.graph.scope s.id before.outputs context).resolve := by
    rw [hctx]
    rfl
  have hvars : ∀ reference, FailsBy (fun e ↦ ¬e.IsRuledOut) (ctx.bindings reference) := by
    rw [hbindings]
    exact Scope.failsBy_resolve (nodup_displayName_ancestors hplan s.id)
  have hformed : ∀ c, s.task = .condition c → c.IsWellFormed := by
    intro c hc
    have htask := hrealizes.task_eq s hs
    rw [hc] at htask
    exact Condition.isWellFormed_of_ofFields (NodeSpec.ofFields_of_task htask).2
  refine ⟨s, hs, hv, ctx, hctx, fun reference id hblank hreserved hbound ↦ ?_, hvars,
    fun c hc ↦ ⟨fun e he ↦ ?_, fun clause hclause ↦ ?_⟩, fun e he ↦ ?_⟩
  · obtain ⟨n, hn, rfl⟩ := exists_goesBy_of_binding? hbound
    rw [hbindings]
    refine Run.settles_of_mem hhistory hnodup ?_ rfl hblank hreserved hbound
      (hancestors n hn.1)
    rw [← hrealizes.settings_eq]
    exact hgoes
  · exact (hformed c hc).not_isRuledOut_of_choose hvars he
  · exact (hformed c hc).not_isRuledOut_of_evaluate hvars hclause
  · have hlacks : ¬∃ c, s.task = .condition c ∧ ¬c.IsWellFormed := by
      rintro ⟨c, hc, hnot⟩
      exact hnot (hformed c hc)
    exact not_isRuledOut_of_cause hvars hlacks (Task.lookup_or_fault_of_meets he)

end Run

/-! ### Nodes that go by no name

A node whose id is a reserved namespace, and one whose id is blank, are bound under their ids, and
yet no reference under these ids comes to them. -/

/-- A text that is not JSON and another text, each with a reader that refers to it by its id. -/
def masked : Workflow where
  id := Uuid.nil
  name := "masked"
  nodes :=
    [{ id := "input", nodeType := "transform.json_parse", displayName := some "Broken"
       config := [("json", .text "[")] },
      { id := "", nodeType := "text", displayName := some "Note"
        config := [("template", .text "hi")] },
      { id := "reader", nodeType := "text", displayName := some "Reader"
        config := [("template", .text "\x7b\x7binput.parsed\x7d\x7d")] },
      { id := "second", nodeType := "text", displayName := some "Second"
        config := [("template", .text "\x7b\x7b.text\x7d\x7d")] }]
  edges := [{ source := "input", target := "reader" }, { source := "", target := "second" }]
  settings := { onError := .continueOnError }

theorem History.exists_visit_of_id {h : History} {id : String} (hid : id ∈ h.map Visit.nodeId) :
    ∃ (before : History) (v : Visit) (after : History),
      h = before ++ v :: after ∧ v.nodeId = id := by
  obtain ⟨v, hv, hnode⟩ := List.mem_map.mp hid
  obtain ⟨before, after, hsplit⟩ := List.append_of_mem hv
  exact ⟨before, v, after, hsplit, hnode⟩

theorem Plan.Realizes.binding?_eq {plan : Plan} {w : Workflow} (hplan : plan.Realizes w)
    {id scope : String} {binding : Option Binding}
    (h : (Graph.build w).toOption.map (fun g ↦ binding? (g.ancestors id) scope) = some binding) :
    binding? (plan.graph.ancestors id) scope = binding := by
  rw [hplan.build_eq] at h
  exact Option.some.inj h

/-- The reference to the node that failed has a value, and the one to the node that completed has
none. -/
theorem not_settled_masked :
    ∃ plan, Plan.ofWorkflow masked = .ok plan ∧
      (∃ (before : History) (v : Visit) (after : History),
        (masked.run exampleContext .never).history = before ++ v :: after ∧ v.nodeId = "reader" ∧
          binding? (plan.graph.ancestors "reader") (Reference.split "input.parsed").scope =
            some (.node "input") ∧
          "input" ∈ (masked.run exampleContext .never).history.failed ∧
          (plan.graph.scope "reader" before.outputs exampleContext).resolve "input.parsed" =
            .ok .null) ∧
      ∃ (before : History) (v : Visit) (after : History),
        (masked.run exampleContext .never).history = before ++ v :: after ∧ v.nodeId = "second" ∧
          binding? (plan.graph.ancestors "second") (Reference.split ".text").scope =
            some (.node "") ∧
          "" ∈ (masked.run exampleContext .never).history.completed ∧
          (plan.graph.scope "second" before.outputs exampleContext).resolve ".text" =
            .error (.unknownVariable ".text") := by
  obtain ⟨plan, hplan⟩ := exists_eq_ok_of_isOk
    (show (Plan.ofWorkflow masked).isOk = true by decide +kernel)
  have hrealizes := Plan.ofWorkflow_eq_ok_iff.mp hplan
  have hinput : (Reference.split "input.parsed").scope = "input" := by decide
  have hblank : (Reference.split ".text").scope = "" := by decide
  refine ⟨plan, hplan, ?_, ?_⟩
  · obtain ⟨before, v, after, hhistory, hid⟩ := History.exists_visit_of_id
      (show "reader" ∈ (masked.run exampleContext .never).history.map Visit.nodeId by
        decide +kernel)
    refine ⟨before, v, after, hhistory, hid, ?_, by decide +kernel, rfl⟩
    rw [hinput]
    exact hrealizes.binding?_eq (by decide +kernel)
  · obtain ⟨before, v, after, hhistory, hid⟩ := History.exists_visit_of_id
      (show "second" ∈ (masked.run exampleContext .never).history.map Visit.nodeId by
        decide +kernel)
    refine ⟨before, v, after, hhistory, hid, ?_, by decide +kernel, rfl⟩
    rw [hblank]
    exact hrealizes.binding?_eq (by decide +kernel)

/-! ### A node behind three others

Of the ancestors of the reader one completes, one is skipped, and one fails. -/

/-- A fork, a text on either side of it, a text that is not JSON, and a reader of all three. -/
def gathered : Workflow where
  id := Uuid.nil
  name := "gathered"
  nodes :=
    [{ id := "gate", nodeType := "condition",
        config := Condition.toFields
          ⟨[⟨"open", "Open", [], .and⟩, ⟨"else", "Else", [], .and⟩], none, none⟩ },
      { id := "taken", nodeType := "text" }, { id := "untaken", nodeType := "text" },
      { id := "broken", nodeType := "transform.json_parse", config := [("json", .text "[")] },
      { id := "reader", nodeType := "text" }]
  edges :=
    [{ source := "gate", target := "taken", sourceHandle := some "open" },
      { source := "gate", target := "untaken", sourceHandle := some "else" },
      { source := "taken", target := "reader" }, { source := "untaken", target := "reader" },
      { source := "broken", target := "reader" }]
  settings := { onError := .continueOnError }

/-- The reader finds what the first ancestor has put out, and nothing of the others. -/
theorem references_settled_gathered :
    ∃ (plan : Plan) (before : History) (v : Visit) (after : History),
      Plan.ofWorkflow gathered = .ok plan ∧
      (gathered.run exampleContext .never).history = before ++ v :: after ∧
      v.nodeId = "reader" ∧
      (∃ value, (plan.graph.scope "reader" before.outputs exampleContext).resolve "taken.text" =
        .ok value) ∧
      (plan.graph.scope "reader" before.outputs exampleContext).resolve "untaken.text" =
        .error (.notYetComputed "untaken" "untaken") ∧
      (plan.graph.scope "reader" before.outputs exampleContext).resolve "broken.parsed" =
        .error (.notYetComputed "broken" "broken") := by
  obtain ⟨plan, hplan⟩ := exists_eq_ok_of_isOk
    (show (Plan.ofWorkflow gathered).isOk = true by decide +kernel)
  obtain ⟨before, v, after, hhistory, hid⟩ := History.exists_visit_of_id
    (show "reader" ∈ (gathered.run exampleContext .never).history.map Visit.nodeId by
      decide +kernel)
  obtain ⟨s, _, hv, ctx, hctx, hsettles, _⟩ := references_settled hplan hhistory
  have hreader : s.id = "reader" := by
    rw [← hid, hv, RunRequest.nodeId_visit]
  have hbindings : ctx.bindings =
      (plan.graph.scope "reader" before.outputs exampleContext).resolve := by
    rw [hctx, ← hreader]
    rfl
  have hrealizes := Plan.ofWorkflow_eq_ok_iff.mp hplan
  rw [hreader, hbindings] at hsettles
  have htaken := hsettles "taken.text" "taken" (by decide) (by decide)
    (hrealizes.binding?_eq (by decide +kernel))
  have huntaken := hsettles "untaken.text" "untaken" (by decide) (by decide)
    (hrealizes.binding?_eq (by decide +kernel))
  have hbroken := hsettles "broken.parsed" "broken" (by decide) (by decide)
    (hrealizes.binding?_eq (by decide +kernel))
  exact ⟨plan, before, v, after, hplan, hhistory, hid, htaken.ok_iff.mpr (by decide +kernel),
    huntaken.notYetComputed_iff.mpr (Or.inl (by decide +kernel)),
    hbroken.notYetComputed_iff.mpr (Or.inr (by decide +kernel))⟩

end FlowRouting
