import FlowRouting.Proofs.Condition.References
import FlowRouting.Proofs.Run.Visits
import FlowRouting.Proofs.Validation.Report

/-!
# Which references the checks look at

The checks collect references from the configuration of a node, and executing the node looks up
references that it has read off the same configuration. `Task.lookups` lists the latter, and
`Step.Overlooks` says which of them the checks miss: the blank left side of a clause, the operand of
a JSON writer that is a reference without braces, and references with a blank namespace if some node
has a blank id. If a report has no warnings, these are all the references that can turn out to be
unknown in a run.
-/

namespace FlowRouting

/-! ## Looking up -/

/-- The references that executing a task may look up. -/
def Task.lookups : Task → List String
  | .condition c => c.lookups
  | .debugLog message => (message.map Template.references).getD []
  | .input _ key _ => ["input." ++ key]
  | .output value => if Template.hasOpening value then Template.operandLookups value else []
  | .text template => Template.references template
  | .delay _ => []
  | .jsonParse source => (source.map Template.references).getD []
  | .jsonStringify source => (source.map Template.operandLookups).getD []

/-- The paths that executing a task passes over because a clause fails. -/
def Task.downgrades (task : Task) (ctx : NodeContext) : List Downgrade :=
  match task with
  | .condition c => (Routing.choose ctx.bindings (c.mode.getD ctx.routing) c.paths).downgrades
  | _ => []

/-- Executing a task meets an error: the node fails with it or passes over a path because of it. -/
def Task.Meets (task : Task) (ctx : NodeContext) (e : EvalError) : Prop :=
  (task.execute ctx).result = .error (.evaluation e) ∨
    ∃ d ∈ task.downgrades ctx, d.failure.error = e

section Lookups

variable {ctx : NodeContext} {e : EvalError} {x : String}

private theorem asOutput_eq_error_iff {field : String} {result : Except NodeError Value}
    {e : NodeError} : asOutput field result = .error e ↔ result = .error e :=
  map_eq_error_iff

private theorem requireInput_ne_evaluation {name : String} :
    ctx.requireInput name ≠ .error (.evaluation e) := by
  rw [NodeContext.requireInput]
  split <;> simp

/-! ### One kind of task after the other -/

private theorem choose_meets_of_meets {c : Condition} (h : (Task.condition c).Meets ctx e) :
    (Routing.choose ctx.bindings (c.mode.getD ctx.routing) c.paths).Meets e := by
  rcases h with h | h
  · rw [Task.execute, ctx.result_route] at h
    exact Or.inl (evaluating_eq_error_iff.mp (map_eq_error_iff.mp h))
  · exact Or.inr h

private theorem exists_lookup_of_debugLog {message : Option String}
    (h : (ctx.debugLog message).result = .error (.evaluation e)) :
    ∃ reference ∈ (Task.debugLog message).lookups, ctx.bindings reference = .error e := by
  cases message with
  | none => cases h
  | some template =>
    rw [NodeContext.debugLog] at h
    split at h
    · next e' hmessage =>
      cases h
      exact Template.exists_reference_of_interpolate_error (evaluating_eq_error_iff.mp hmessage)
    · cases h

private theorem input_error_of_readInput {subtype key : String} {default : Value}
    (h : ctx.readInput subtype key default = .error (.evaluation e)) :
    ctx.bindings ("input." ++ key) = .error e := by
  rw [NodeContext.readInput] at h
  rcases bind_eq_error_iff.mp h with h | ⟨found, _, h⟩
  · exact evaluating_eq_error_iff.mp h
  · -- Whatever has been found, reading it as JSON has no fault that is an evaluation error.
    split at h
    all_goals
      split at h
      · simp only at h
        split at h
        · obtain ⟨fault, _, hfault⟩ := mapError_eq_error_iff.mp h
          cases hfault
        · cases h
      · cases h

private theorem exists_lookup_of_publish {value : String}
    (h : (ctx.publish value).result = .error (.evaluation e)) :
    ∃ reference ∈ (Task.output value).lookups, ctx.bindings reference = .error e := by
  rw [NodeContext.publish] at h
  split at h
  · next e' hpublished =>
    cases h
    split at hpublished
    · next hopening =>
      rw [Task.lookups, if_pos hopening]
      exact Template.exists_lookup_of_resolveOperand_error hpublished
    · cases hpublished
  · cases h

private theorem exists_lookup_of_parseJson {source : Option String}
    (h : ctx.parseJson source = .error (.evaluation e)) :
    ∃ reference ∈ (Task.jsonParse source).lookups, ctx.bindings reference = .error e := by
  rw [NodeContext.parseJson] at h
  rcases bind_eq_error_iff.mp h with h | ⟨text, _, h⟩
  · cases source with
    | none =>
      rcases bind_eq_error_iff.mp h with h | ⟨v, _, h⟩
      · exact absurd h requireInput_ne_evaluation
      · split at h <;> cases h
    | some template =>
      exact Template.exists_reference_of_interpolate_error (evaluating_eq_error_iff.mp h)
  · obtain ⟨fault, _, hfault⟩ := mapError_eq_error_iff.mp h
    cases hfault

private theorem exists_lookup_of_writeJson {source : Option String}
    (h : ctx.writeJson source = .error (.evaluation e)) :
    ∃ reference ∈ (Task.jsonStringify source).lookups, ctx.bindings reference = .error e := by
  rw [NodeContext.writeJson.eq_def] at h
  cases source with
  | none =>
    rcases bind_eq_error_iff.mp h with h | ⟨v, _, h⟩
    · exact absurd h requireInput_ne_evaluation
    · cases h
  | some operand =>
    rcases bind_eq_error_iff.mp h with h | ⟨v, _, h⟩
    · have hresolve := evaluating_eq_error_iff.mp h
      rw [Task.lookups, Option.map_some, Option.getD_some]
      exact Template.exists_lookup_of_resolveOperand_error hresolve
    · cases h

/-- What a task meets is the error of a reference that it looks up, or a fault of an operand, unless
it is to choose between the paths of a condition that is not well-formed. -/
theorem Task.lookup_or_fault_of_meets {task : Task} (h : task.Meets ctx e) :
    (∃ reference ∈ task.lookups, ctx.bindings reference = .error e) ∨ e.IsOperandFault ∨
      e.IsLack ∧ ∃ c, task = .condition c ∧ ¬c.IsWellFormed := by
  by_cases hcondition : ∃ c, task = .condition c
  · obtain ⟨c, rfl⟩ := hcondition
    rcases Condition.lookup_or_fault_of_choose (choose_meets_of_meets h) with
      hlookup | hfault | ⟨hlack, hformed⟩
    · exact Or.inl hlookup
    · exact Or.inr (Or.inl hfault)
    · exact Or.inr (Or.inr ⟨hlack, c, rfl, hformed⟩)
  · -- No other task passes over paths, and none has operands.
    refine Or.inl ?_
    have hfails : (task.execute ctx).result = .error (.evaluation e) := by
      rcases h with h | ⟨d, hd, _⟩
      · exact h
      · rw [Task.downgrades.eq_def] at hd
        split at hd
        · exact absurd ⟨_, rfl⟩ hcondition
        · exact absurd hd List.not_mem_nil
    cases task with
    | condition c => exact absurd ⟨c, rfl⟩ hcondition
    | debugLog message => exact exists_lookup_of_debugLog hfails
    | input subtype key default =>
      exact ⟨_, List.mem_singleton_self _,
        input_error_of_readInput (asOutput_eq_error_iff.mp hfails)⟩
    | output value => exact exists_lookup_of_publish hfails
    | text template =>
      exact Template.exists_reference_of_interpolate_error (map_eq_error_iff.mp
        (evaluating_eq_error_iff.mp (asOutput_eq_error_iff.mp hfails)))
    | delay ms => cases hfails
    | jsonParse source => exact exists_lookup_of_parseJson (asOutput_eq_error_iff.mp hfails)
    | jsonStringify source => exact exists_lookup_of_writeJson (asOutput_eq_error_iff.mp hfails)

private theorem Task.exists_lookup_of_meets {task : Task}
    (h : task.Meets ctx (.unknownVariable x)) :
    ∃ reference ∈ task.lookups, ctx.bindings reference = .error (.unknownVariable x) := by
  rcases Task.lookup_or_fault_of_meets h with hlookup | hfault | ⟨hlack, _⟩
  · exact hlookup
  · exact hfault.elim
  · exact hlack.elim

end Lookups

/-! ## Overlooking -/

/-- A reference that executing a step may look up while the checks pass it over. -/
inductive Step.Overlooks (g : Graph) (s : Step) (reference : String) : Prop where
  /-- The blank left side of a guarded clause. -/
  | blankClause {c : Condition} {p : Path} {clause : Clause} (task_eq : s.task = .condition c)
    (path_mem : p ∈ c.guarded) (clause_mem : clause ∈ p.clauses)
    (blank : clause.inputField.isBlank = true) (reference_eq : reference = "")
  /-- The operand of a JSON writer, if it has no braces and its namespace is blank or that of no
  ancestor. -/
  | bareOperand {operand : String} (task_eq : s.task = .jsonStringify (some operand))
    (bare : Template.hasOpening operand = false) (reference_eq : reference = operand.trimBlanks)
    (unbound : (Reference.split reference).scope = "" ∨
      Reference.isReserved (Reference.split reference).scope = false ∧
        ∀ n ∈ g.ancestors s.id, n.displayName ≠ (Reference.split reference).scope ∧
          n.id ≠ (Reference.split reference).scope)
  /-- A reference with a blank namespace, if some node has a blank id. -/
  | blankId {n : NamedNode} (node_mem : n ∈ g.nodes) (id_eq : n.id = "")
    (scope_eq : (Reference.split reference).scope = "")

private theorem Reference.scope_split_input (key : String) :
    (Reference.split ("input." ++ key)).scope = "input" := by
  have hlist : ("input." ++ key).toList = ['i', 'n', 'p', 'u', 't', '.'] ++ key.toList := by
    rw [String.toList_append]
    rfl
  have hleft : Text.trimLeft (['i', 'n', 'p', 'u', 't', '.'] ++ key.toList) =
      ['i', 'n', 'p', 'u', 't', '.'] ++ key.toList := rfl
  have hright : ∃ cs,
      Text.trim ("input." ++ key).toList = ['i', 'n', 'p', 'u', 't', '.'] ++ cs := by
    rw [hlist, Text.trim, hleft, Text.trimRight, List.reverse_append, List.dropWhile_append]
    split
    · exact ⟨[], rfl⟩
    · exact ⟨_, by rw [List.reverse_append, List.reverse_reverse]⟩
  obtain ⟨cs, hcs⟩ := hright
  rw [Reference.split, hcs]
  rfl

/-! ## Tasks and configurations -/

section Found

variable {g : Graph} {schemas : Schemas} {warnings : List Warning} {uses : List Validation.Use}
  {s : Step}

/-- Where a reference comes from that a step may look up: the checks found it, or its namespace is
reserved, or it is the blank side of a clause or the bare operand of a JSON writer. -/
theorem found_or_overlooked (h : g.Passes schemas warnings uses) (hs : s.node ∈ g.nodes)
    (htask : s.node.spec.task = .ok s.task) {reference : String}
    (hreference : reference ∈ s.task.lookups) :
    ⟨s.id, reference⟩ ∈ uses ∨ Reference.isReserved (Reference.split reference).scope = true ∨
      (∃ c p clause, s.task = .condition c ∧ p ∈ c.guarded ∧ clause ∈ p.clauses ∧
        clause.inputField.isBlank = true ∧ reference = "") ∨
      ∃ operand, s.task = .jsonStringify (some operand) ∧ Template.hasOpening operand = false ∧
        reference = operand.trimBlanks := by
  obtain ⟨t, ht, htype⟩ := NodeSpec.exists_taskAs htask
  have hcondition : t ≠ .condition → s.node.spec.isCondition = false := by
    intro hne
    rw [← Bool.not_eq_true, htype]
    exact hne
  -- Each task has its references from the configuration, where the checks look for them.
  cases t with
  | condition =>
    obtain ⟨c, hc, heq⟩ := map_eq_ok_iff.mp (mapError_eq_ok_iff.mp ht)
    rw [← heq] at hreference
    obtain ⟨p, hp, hreference⟩ := List.mem_flatMap.mp hreference
    obtain ⟨clause, hclause, hreference⟩ := List.mem_flatMap.mp hreference
    rcases Clause.mem_clauseReferences_or_blank hreference with hfound | ⟨hblank, hempty⟩
    · exact Or.inl (h.clauseReference_mem hs (htype.mpr rfl) hc hp hclause hfound)
    · exact Or.inr (Or.inr (Or.inl ⟨c, p, clause, heq.symm, hp, hclause, hblank, hempty⟩))
  | debugLog =>
    rw [← Except.ok.inj ht] at hreference
    exact Or.inl (h.optionalReference_mem hs (hcondition (by decide)) hreference)
  | input =>
    rw [NodeSpec.taskAs, NodeSpec.inputTask] at ht
    split at ht
    · rw [← Except.ok.inj ht] at hreference
      rw [List.mem_singleton.mp hreference, Reference.scope_split_input]
      exact Or.inr (Or.inl (by decide))
    · cases ht
  | output =>
    rw [← Except.ok.inj ht, Task.lookups] at hreference
    split at hreference
    · next hopening =>
      rw [Template.operandLookups_of_hasOpening hopening] at hreference
      exact Or.inl (h.defaultReference_mem hs (hcondition (by decide)) hreference)
    · exact absurd hreference List.not_mem_nil
  | text =>
    rw [← Except.ok.inj ht] at hreference
    exact Or.inl (h.defaultReference_mem hs (hcondition (by decide)) hreference)
  | delay =>
    rw [← Except.ok.inj ht] at hreference
    exact absurd hreference List.not_mem_nil
  | jsonParse =>
    rw [← Except.ok.inj ht] at hreference
    exact Or.inl (h.optionalReference_mem hs (hcondition (by decide)) hreference)
  | jsonStringify =>
    have heq := Except.ok.inj ht
    cases hconfig : s.node.spec.configText? "value" with
    | none =>
      rw [← heq, hconfig] at hreference
      exact absurd hreference List.not_mem_nil
    | some operand =>
      rw [← heq, hconfig, Task.lookups, Option.map_some, Option.getD_some] at hreference
      cases hopening : Template.hasOpening operand with
      | true =>
        rw [Template.operandLookups_of_hasOpening hopening] at hreference
        exact Or.inl (h.textReference_mem hs (hcondition (by decide)) hconfig hreference)
      | false =>
        rw [Template.operandLookups_of_bare hopening, List.mem_singleton] at hreference
        exact Or.inr (Or.inr (Or.inr ⟨operand, by rw [← heq, hconfig], hopening, hreference⟩))

/-- **What a clean report leaves open.** If a report has no warnings, the references of a step that
are unknown in its scope are exactly those that the checks overlook. -/
theorem unknown_iff_overlooks {w : Workflow} (hg : g.Represents w) (h : g.Passes schemas [] uses)
    (hs : s.node ∈ g.nodes) (htask : s.node.spec.task = .ok s.task) {reference : String}
    (hreference : reference ∈ s.task.lookups) (outputs : OutputStore) (context : RunContext) :
    (∃ x, (g.scope s.id outputs context).resolve reference = .error (.unknownVariable x)) ↔
      s.Overlooks g reference := by
  rw [Scope.unknown_iff]
  constructor
  · intro hunknown
    rcases found_or_overlooked h hs htask hreference with hfound | hreserved |
      ⟨c, p, clause, hcondition, hp, hclause, hblank, hempty⟩ | ⟨operand, hjson, hbare, heq⟩
    · -- The checks found the reference, so some ancestor goes by its namespace.
      have hscope : Reference.isReserved (Reference.split reference).scope = false := by
        rcases hunknown with hblank | ⟨hscope, _⟩
        · rw [hblank]
          decide
        · exact hscope
      obtain ⟨n, ⟨hn, hgoes⟩, m, hm, hid⟩ := h.exists_ancestor_of_clean hfound hscope
      rcases hunknown with hblank | ⟨_, hnone⟩
      · rw [hblank] at hgoes
        rcases hgoes with hname | ⟨hid, _⟩
        · exact absurd hname (displayName_ne_empty (hg.nodes_perm.mem_iff.mp hn))
        · exact .blankId hn hid hblank
      · have hmn : m = n := hg.eq_of_id_eq (Graph.mem_nodes_of_mem_ancestors hm) hn hid
        rcases hgoes with hname | ⟨hid, _⟩
        · exact absurd hname (hnone n (hmn ▸ hm)).1
        · exact absurd hid (hnone n (hmn ▸ hm)).2
    · rcases hunknown with hblank | ⟨hscope, _⟩
      · rw [hblank] at hreserved
        exact absurd hreserved (by decide)
      · rw [hreserved] at hscope
        cases hscope
    · exact .blankClause hcondition hp hclause hblank hempty
    · exact .bareOperand hjson hbare heq hunknown
  · rintro (⟨_, _, _, _, rfl⟩ | ⟨_, _, _, hunbound⟩ | ⟨_, _, hblank⟩)
    · exact Or.inl rfl
    · exact hunbound
    · exact Or.inl hblank

end Found

/-! ## Runs -/

/-- **Unknown variables behind a clean report.** Let a workflow have passed its checks without
warnings. At every visit of a run, the references that executing the step may look up and that are
unknown are exactly those that the checks overlook; and a node fails by an unknown variable, or
passes over a path because of one, only by looking up such a reference. -/
theorem unknownVariable_iff_overlooked {w : Workflow} {context : RunContext}
    {cancellation : Cancellation} {plan : Plan} {before after : History} {v : Visit}
    (hplan : Plan.ofWorkflow w = .ok plan)
    (hclean : plan.graph.validate Schemas.standard = .ok [])
    (h : (w.run context cancellation).history = before ++ v :: after) :
    ∃ s ∈ plan.steps, v = RunRequest.visit ⟨plan, context, cancellation⟩ before s ∧
      (∀ reference ∈ s.task.lookups,
        (∃ x, (plan.graph.scope s.id before.outputs context).resolve reference =
          .error (.unknownVariable x)) ↔ s.Overlooks plan.graph reference) ∧
      ∀ x, (v.error? = some (.evaluation (.unknownVariable x)) ∨
          ∃ d ∈ s.task.downgrades
              (RunRequest.nodeContext ⟨plan, context, cancellation⟩ before s.node),
            d.failure.error = .unknownVariable x) →
        ∃ reference ∈ s.task.lookups, s.Overlooks plan.graph reference ∧
          (plan.graph.scope s.id before.outputs context).resolve reference =
            .error (.unknownVariable x) := by
  obtain ⟨plan', s, hplan', hs, hv⟩ := exists_step_of_visit h
  cases hplan.symm.trans hplan'
  have hrealizes := Plan.ofWorkflow_eq_ok_iff.mp hplan
  obtain ⟨uses, hpasses⟩ := Graph.exists_passes_of_validate hclean
  have hunknown : ∀ reference ∈ s.task.lookups,
      ((∃ x, (plan.graph.scope s.id before.outputs context).resolve reference =
        .error (.unknownVariable x)) ↔ s.Overlooks plan.graph reference) := fun reference hmem ↦
    unknown_iff_overlooks hrealizes.represents hpasses (hrealizes.node_mem hs)
      (hrealizes.task_eq s hs) hmem before.outputs context
  refine ⟨s, hs, hv, hunknown, fun x hmeets ↦ ?_⟩
  have htask : s.task.Meets (RunRequest.nodeContext ⟨plan, context, cancellation⟩ before s.node)
      (.unknownVariable x) := by
    rcases hmeets with herror | hdowngrade
    · rw [hv] at herror
      exact Or.inl (RunRequest.result_of_ending (RunRequest.result_of_error? herror) (by simp)
        (by simp))
    · exact Or.inr hdowngrade
  obtain ⟨reference, hmem, hreference⟩ := Task.exists_lookup_of_meets htask
  exact ⟨reference, hmem, (hunknown reference hmem).mp ⟨x, hreference⟩, hreference⟩

/-! ### A bare operand

A JSON writer whose operand is a reference to no node. -/

def bareWriter : Workflow where
  id := Uuid.nil
  name := "bare writer"
  nodes :=
    [{ id := "writer", nodeType := "transform.json_stringify"
       config := [("value", .text "missing.x")] }]

private def bareWriterGraph : Graph where
  nodes := nameNodes [] bareWriter.nodes
  edges := []

private theorem build_bareWriter : Graph.build bareWriter = .ok bareWriterGraph := rfl

private theorem exists_plan_bareWriter :
    ∃ plan, Plan.ofWorkflow bareWriter = .ok plan ∧
      plan.graph.validate Schemas.standard = .ok [] := by
  have hvalid : bareWriterGraph.validate Schemas.standard = .ok [] :=
    eq_ok_of_toOption (by decide +kernel)
  obtain ⟨plan, hplan⟩ := exists_eq_ok_of_isOk
    (show (Plan.ofWorkflow bareWriter).isOk = true by decide +kernel)
  have hgraph : bareWriterGraph = plan.graph :=
    Except.ok.inj (build_bareWriter.symm.trans (Plan.ofWorkflow_eq_ok_iff.mp hplan).build_eq)
  exact ⟨plan, hplan, hgraph ▸ hvalid⟩

private theorem exists_failure_bareWriter :
    ∃ v ∈ (bareWriter.run exampleContext .never).history,
      v.error? = some (.evaluation (.unknownVariable "missing.x")) := by
  have hany : (bareWriter.run exampleContext .never).history.any
      (fun v ↦ v.error? == some (.evaluation (.unknownVariable "missing.x"))) = true := by
    decide +kernel
  obtain ⟨v, hv, herror⟩ := List.any_eq_true.mp hany
  exact ⟨v, hv, beq_iff_eq.mp herror⟩

/-- The checks are silent about the writer, and yet it fails by an unknown variable. -/
theorem not_covered_bareWriter :
    ∃ plan, Plan.ofWorkflow bareWriter = .ok plan ∧
      plan.graph.validate Schemas.standard = .ok [] ∧
      ∃ v ∈ (bareWriter.run exampleContext .never).history,
        v.error? = some (.evaluation (.unknownVariable "missing.x")) := by
  obtain ⟨plan, hplan, hclean⟩ := exists_plan_bareWriter
  exact ⟨plan, hplan, hclean, exists_failure_bareWriter⟩

/-- So it looks up a reference that the checks overlook. -/
theorem unknownVariable_iff_overlooked_bareWriter :
    ∃ plan, Plan.ofWorkflow bareWriter = .ok plan ∧
      plan.graph.validate Schemas.standard = .ok [] ∧
      ∃ s ∈ plan.steps, ∃ reference ∈ s.task.lookups, s.Overlooks plan.graph reference := by
  obtain ⟨plan, hplan, hclean⟩ := exists_plan_bareWriter
  obtain ⟨v, hv, herror⟩ := exists_failure_bareWriter
  obtain ⟨before, after, hhistory⟩ := List.append_of_mem hv
  obtain ⟨s, hs, _, _, hmeets⟩ := unknownVariable_iff_overlooked hplan hclean hhistory
  obtain ⟨reference, hmem, hoverlooks, _⟩ := hmeets "missing.x" (Or.inl herror)
  exact ⟨plan, hplan, hclean, s, hs, reference, hmem, hoverlooks⟩

end FlowRouting
