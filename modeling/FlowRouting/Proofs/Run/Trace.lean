import FlowRouting.Proofs.Run.Publication

/-!
# The shape of the events

Between the event that a run has started and the event that it is over, its events come in blocks,
one for each node that the run has got to. The block of a node is read off its visit alone; that
exactly the conditions among the completed nodes have taken a path is a fact about tasks.

What the run adds is where it goes on. It does so behind a visit that failed only if failures are
passed over, and this is the invariant: all visits behind which it went on are such
(`goesOn_of_mem_dropLast`). If it ends with an error, then because of its last visit or because it
is cancelled.
-/

namespace FlowRouting

/-! ## Blocks -/

/-- The events of a node up to its end: it starts and reports notes. -/
def NamedNode.opening (n : NamedNode) (notes : List Note) : List Event :=
  .nodeStarted n.id n.spec.nodeType :: notes.map (.noted n.id)

/-- The events of a node: it is skipped, or it starts, reports notes, and completes or fails. A
condition, and no other node, takes a path when it completes. -/
inductive NodeBlock (n : NamedNode) : List Event → Prop where
  | skipped : NodeBlock n [.nodeSkipped n.id]
  | completed (notes : List Note) (outputs : Fields) (duration : Nat)
      (h : n.spec.isCondition = false) :
      NodeBlock n (n.opening notes ++ [.nodeCompleted n.id outputs duration])
  | routed (notes : List Note) (outputs : Fields) (duration : Nat) (pathId pathName : String)
      (matched : Bool) (h : n.spec.isCondition = true) :
      NodeBlock n (n.opening notes ++
        [.nodeCompleted n.id outputs duration, .pathSelected n.id pathId pathName matched])
  | failed (notes : List Note) (error : NodeError) :
      NodeBlock n (n.opening notes ++ [.nodeFailed n.id error])

def Event.nodeId? : Event → Option String
  | .workflowStarted | .workflowCompleted .. => none
  | .nodeStarted id _ | .nodeCompleted id .. | .nodeFailed id _ | .nodeSkipped id
  | .pathSelected id .. | .noted id _ => some id

theorem NodeBlock.nodeId?_eq {n : NamedNode} {block : List Event} (h : NodeBlock n block) :
    ∀ event ∈ block, event.nodeId? = some n.id := by
  have hopening : ∀ notes, ∀ event ∈ n.opening notes, event.nodeId? = some n.id := by
    intro notes
    rw [NamedNode.opening, List.forall_mem_cons, List.forall_mem_map]
    exact ⟨rfl, fun _ _ ↦ rfl⟩
  cases h with
  | skipped => simp [Event.nodeId?]
  | completed notes | routed notes | failed notes =>
    rw [List.forall_mem_append]
    refine ⟨hopening notes, ?_⟩
    simp [Event.nodeId?]

/-- The last event of a block is that the node failed. -/
def EndsInFailure (block : List Event) : Prop :=
  ∃ id error, block.getLast? = some (.nodeFailed id error)

private theorem Visit.endsInFailure_events_iff {v : Visit} :
    EndsInFailure v.events ↔ v.error?.isSome = true := by
  cases v with
  | skipped id => simp [EndsInFailure, Visit.events, Visit.error?]
  | executed id nodeType notes ending =>
    -- The last event of the node is the last one of its ending.
    have hne : ending.events id ≠ [] := by
      rw [Ending.events]
      split <;> exact List.cons_ne_nil _ _
    rw [EndsInFailure, Visit.events, List.getLast?_append_of_ne_nil _ hne]
    rcases ending with ⟨duration, error | output⟩
    · simp [Visit.error?, Ending.events]
    · cases hbranch : output.branch <;>
        simp [Visit.error?, Ending.events, NodeOutput.selectionEvent?, hbranch]

/-! ## The block of a visit -/

private theorem branch_of_asOutput {field : String} {result : Except NodeError Value}
    {output : NodeOutput} (h : asOutput field result = .ok output) : output.branch = none := by
  obtain ⟨v, _, rfl⟩ := map_eq_ok_iff.mp h
  rfl

theorem Task.isSome_branch_iff {task : Task} {ctx : NodeContext} {output : NodeOutput}
    (h : (task.execute ctx).result = .ok output) :
    output.branch.isSome = true ↔ task.nodeType = .condition := by
  -- All tasks but the first one put out a record without a path.
  have hnone (hbranch : output.branch = none) (htype : task.nodeType ≠ .condition) :
      output.branch.isSome = true ↔ task.nodeType = .condition := by
    rw [hbranch]
    exact iff_of_false Bool.false_ne_true htype
  cases task with
  | condition c =>
    obtain ⟨s, _, rfl⟩ := exists_selection_of_route h
    exact iff_of_true rfl rfl
  | debugLog message =>
    rw [execute, NodeContext.debugLog] at h
    split at h <;> cases h
    exact hnone rfl nofun
  | output value =>
    rw [execute, NodeContext.publish] at h
    split at h <;> cases h
    exact hnone rfl nofun
  | delay ms =>
    cases h
    exact hnone rfl nofun
  | input | text | jsonParse | jsonStringify => exact hnone (branch_of_asOutput h) nofun

theorem NodeSpec.nodeType_of_taskAs {spec : NodeSpec} {t : NodeType} {task : Task}
    (h : spec.taskAs t = .ok task) : task.nodeType = t := by
  cases t with
  | condition =>
    obtain ⟨c, _, rfl⟩ := map_eq_ok_iff.mp (mapError_eq_ok_iff.mp h)
    rfl
  | input =>
    rw [taskAs, inputTask] at h
    split at h <;> cases h
    rfl
  | debugLog | output | text | delay | jsonParse | jsonStringify =>
    cases h
    rfl

theorem NodeSpec.isCondition_iff_of_task {spec : NodeSpec} {task : Task}
    (h : spec.task = .ok task) : spec.isCondition = true ↔ task.nodeType = .condition := by
  obtain ⟨t, ht, hcondition⟩ := NodeSpec.exists_taskAs h
  rw [hcondition, NodeSpec.nodeType_of_taskAs ht]

theorem NodeSpec.ofFields_of_task {spec : NodeSpec} {c : Condition}
    (h : spec.task = .ok (.condition c)) :
    spec.isCondition = true ∧ Condition.ofFields spec.id spec.config = .ok c := by
  obtain ⟨t, ht, hcondition⟩ := NodeSpec.exists_taskAs h
  have htype : NodeType.condition = t := NodeSpec.nodeType_of_taskAs ht
  subst htype
  obtain ⟨c', hread, heq⟩ := map_eq_ok_iff.mp (mapError_eq_ok_iff.mp ht)
  cases heq
  exact ⟨hcondition.mpr rfl, hread⟩

namespace RunRequest

variable {r : RunRequest} {h : History} {s : Step}

theorem isSome_branch_iff (htask : s.node.spec.task = .ok s.task) {output : NodeOutput}
    (hresult : (r.ending h s).result = .ok output) :
    output.branch.isSome = true ↔ s.node.spec.isCondition = true := by
  rw [NodeSpec.isCondition_iff_of_task htask]
  exact Task.isSome_branch_iff (result_of_ending hresult (by simp) (by simp))

/-- The events of the visit of a step are a block of its node. -/
theorem nodeBlock_visit (htask : s.node.spec.task = .ok s.task) :
    NodeBlock s.node (r.visit h s).events := by
  by_cases hskip : r.Skips h s
  · rw [visit_of_skips hskip]
    exact .skipped
  · rw [visit_of_not_skips hskip]
    rcases hending : r.ending h s with ⟨duration, error | output⟩
    · exact .failed _ error
    · have hbranch : output.branch.isSome = true ↔ s.node.spec.isCondition = true :=
        isSome_branch_iff htask (by rw [hending])
      show NodeBlock s.node (s.node.opening _ ++
        .nodeCompleted s.id output.outputs duration :: (output.selectionEvent? s.id).toList)
      rw [NodeOutput.selectionEvent?]
      cases hpath : output.branch with
      | none =>
        rw [hpath] at hbranch
        exact .completed _ _ _ (by simpa using hbranch)
      | some pathId =>
        rw [hpath] at hbranch
        exact .routed _ _ _ _ _ _ (hbranch.mp rfl)

private theorem forall₂_nodeBlock_visits (steps : List Step)
    (htasks : ∀ s ∈ steps, s.node.spec.task = .ok s.task) (h : History) :
    List.Forall₂ NodeBlock (steps.map Step.node) ((r.visits h steps).map Visit.events) := by
  induction steps generalizing h with
  | nil => exact .nil
  | cons s steps ih =>
    rw [List.forall_mem_cons] at htasks
    exact .cons (nodeBlock_visit htasks.1) (ih htasks.2 _)

end RunRequest

/-! ## Where a run goes on -/

namespace RunRequest

variable {r : RunRequest} {s : Step} {v : Visit} {e : RunError}

/-- A run goes on behind a visit if the node did not fail or failures are passed over. -/
def GoesOn (r : RunRequest) (v : Visit) : Prop :=
  v.error?.isSome = true → r.plan.settings.onError = .continueOnError

private theorem goesOn_of_stop? (hstop : r.stop? s v = none) : r.GoesOn v := by
  intro hfailed
  obtain ⟨error, herror⟩ := Option.isSome_iff_exists.mp hfailed
  exact (stop?_eq_none_iff.mp hstop error herror).2.1

private theorem isSome_error?_of_stop? (hstop : r.stop? s v = some e) : v.error?.isSome = true := by
  rw [stop?] at hstop
  cases herror : v.error? with
  | none =>
    rw [herror] at hstop
    cases hstop
  | some error => rfl

/-- A run has gone on behind all its visits but the last one, if it went on behind those before. -/
theorem goesOn_of_mem_dropLast {steps : List Step} {h : History} (hgoes : ∀ v ∈ h, r.GoesOn v) :
    ∀ v ∈ (r.visitAll steps h).1.dropLast, r.GoesOn v := by
  induction steps generalizing h with
  | nil => exact fun v hv ↦ hgoes v (List.dropLast_subset _ hv)
  | cons s steps ih =>
    rw [visitAll]
    split
    · exact fun v hv ↦ hgoes v (List.dropLast_subset _ hv)
    · cases hstop : r.stop? s (r.visit h s) with
      | some e =>
        -- The visit that stops the run is the one that is dropped.
        simpa [hstop] using hgoes
      | none =>
        simp only [hstop]
        refine ih ?_
        intro v hv
        rcases List.mem_append.mp hv with hv | hv
        · exact hgoes v hv
        · rw [List.mem_singleton.mp hv]
          exact goesOn_of_stop? hstop

/-- A run that ends with an error is cancelled, or its last visit is that of a node that failed. -/
theorem cancelled_or_failed_of_visitAll {steps : List Step} {h : History}
    (herror : (r.visitAll steps h).2 = some e) :
    e = .cancelled ∨ ∃ v ∈ (r.visitAll steps h).1.getLast?, v.error?.isSome = true := by
  induction steps generalizing h with
  | nil => cases herror
  | cons s steps ih =>
    rw [visitAll] at herror ⊢
    split at herror
    · cases herror
      exact Or.inl rfl
    · next hdue =>
      rw [if_neg hdue]
      cases hstop : r.stop? s (r.visit h s) with
      | some e' =>
        refine Or.inr ⟨r.visit h s, ?_, isSome_error?_of_stop? hstop⟩
        simp [hstop]
      | none =>
        simp only [hstop] at herror ⊢
        exact ih herror

private theorem onError_of_mem_dropLast {block : List Event}
    (hblock : block ∈ (r.run.history.map Visit.events).dropLast) (hfailed : EndsInFailure block) :
    r.plan.settings.onError = .continueOnError := by
  rw [history_run, ← List.map_dropLast] at hblock
  obtain ⟨v, hv, rfl⟩ := List.mem_map.mp hblock
  -- The run begins with no visits behind it.
  have hgoes : ∀ v ∈ ([] : History), r.GoesOn v := fun _ h ↦ absurd h List.not_mem_nil
  exact goesOn_of_mem_dropLast hgoes v hv (Visit.endsInFailure_events_iff.mp hfailed)

private theorem cancelled_or_endsInFailure (herror : r.run.result = .error e) :
    e = .cancelled ∨
      ∃ block ∈ (r.run.history.map Visit.events).getLast?, EndsInFailure block := by
  rw [history_run, List.getLast?_map]
  rcases cancelled_or_failed_of_visitAll (result_run_eq_error_iff.mp herror)
    with hcancelled | ⟨v, hv, hfailed⟩
  · exact Or.inl hcancelled
  · exact Or.inr ⟨v.events, Option.mem_map_of_mem _ hv,
      Visit.endsInFailure_events_iff.mpr hfailed⟩

end RunRequest

/-! ## All events of a run -/

/-- The blocks of a run that follows a plan for a workflow: they belong to nodes in topological
order, from the first one on, and up to the last one if the run has a result; behind a node that
failed the run goes on only if that is what the workflow wants; and if the run ends with an error,
then the last node has failed, unless the run is cancelled. -/
structure Run.InBlocks (run : Run) (w : Workflow) (plan : Plan) (blocks : List (List Event)) :
    Prop where
  belong : ∃ nodes, nodes <+: plan.graph.nodes ∧
    List.Forall₂ (fun n block ↦ NodeBlock n block ∧ ∀ event ∈ block, event.nodeId? = some n.id)
      nodes blocks
  complete : run.result.isOk = true → blocks.length = w.nodes.length
  passedOver : ∀ block ∈ blocks.dropLast, EndsInFailure block →
    w.settings.onError = .continueOnError
  stopped : ∀ e, run.result = .error e →
    e = .cancelled ∨ ∃ block ∈ blocks.getLast?, EndsInFailure block

private theorem Run.inBlocks_of_plan {w : Workflow} {plan : Plan}
    (hplan : Plan.ofWorkflow w = .ok plan) (context : RunContext) (cancellation : Cancellation) :
    (w.run context cancellation).InBlocks w plan
      ((w.run context cancellation).history.map Visit.events) := by
  have hr := Plan.ofWorkflow_eq_ok_iff.mp hplan
  obtain ⟨done, rest, hsteps, hhistory, hdone⟩ :=
    exists_visits_of_run hplan context cancellation
  have hrun : w.run context cancellation = RunRequest.run ⟨plan, context, cancellation⟩ :=
    run_eq_of_plan hplan
  -- A run breaks off the steps of its plan, and these are in topological order.
  have hprefix : done.map Step.node <+: plan.graph.nodes := by
    rw [← hr.nodes_eq, hsteps, List.map_append]
    exact List.prefix_append _ _
  have htasks : ∀ s ∈ done, s.node.spec.task = .ok s.task := by
    intro s hs
    refine hr.task_eq s ?_
    rw [hsteps]
    exact List.mem_append_left _ hs
  refine ⟨⟨done.map Step.node, hprefix, ?_⟩, ?_, ?_, ?_⟩
  · rw [hhistory]
    exact (RunRequest.forall₂_nodeBlock_visits done htasks []).imp
      fun _ _ hblock ↦ ⟨hblock, hblock.nodeId?_eq⟩
  · intro hok
    obtain ⟨res, hres⟩ := exists_eq_ok_of_isOk hok
    obtain ⟨rfl, _⟩ := hdone res hres
    rw [List.append_nil] at hsteps
    rw [List.length_map, hhistory, RunRequest.length_visits, ← hsteps, hr.length_steps]
  · intro block hblock hfailed
    rw [hrun] at hblock
    rw [← hr.settings_eq]
    exact RunRequest.onError_of_mem_dropLast hblock hfailed
  · intro e he
    rw [hrun] at he ⊢
    exact RunRequest.cancelled_or_endsInFailure he

/-- **The shape of the events.** The events of a run are that it starts, then blocks of events of
its nodes, and then that it is over, with success exactly if it has a result. A workflow that does
not pass the checks has no blocks. -/
theorem events_eq_blocks (w : Workflow) (context : RunContext) (cancellation : Cancellation) :
    ∃ blocks, (w.run context cancellation).events = .workflowStarted :: blocks.flatten ++
        [.workflowCompleted (w.run context cancellation).result.isOk
          (w.run context cancellation).history.clock] ∧
      match Plan.ofWorkflow w with
      | .error e => blocks = [] ∧ (w.run context cancellation).result = .error e
      | .ok plan => (w.run context cancellation).InBlocks w plan blocks := by
  refine ⟨(w.run context cancellation).history.map Visit.events, ?_, ?_⟩
  · rw [Run.events, List.flatMap_def]
  · cases hplan : Plan.ofWorkflow w with
    | error e =>
      rw [Workflow.run, hplan]
      exact ⟨rfl, rfl⟩
    | ok plan => exact Run.inBlocks_of_plan hplan context cancellation

/-! ### A gate behind a failure

Failures are passed over, so the run goes on to the condition. -/

/-- A node that fails, and a condition. -/
def stumbling : Workflow where
  id := Uuid.nil
  name := "stumbling"
  nodes :=
    [{ id := "broken", nodeType := "transform.json_parse", config := [("json", .text "[")] },
      { id := "gate", nodeType := "condition",
        config := Condition.toFields
          ⟨[⟨"open", "Open", [], .and⟩, ⟨"else", "Else", [], .and⟩], none, none⟩ }]
  edges := [{ source := "broken", target := "gate" }]
  settings := { onError := .continueOnError }

/-- The failure of the first node neither ends the run nor the blocks. -/
theorem events_eq_blocks_stumbling :
    ∃ blocks : List (List Event), (stumbling.run exampleContext .never).events =
      .workflowStarted :: blocks.flatten ++ [.workflowCompleted true 0] ∧ blocks.length = 2 := by
  obtain ⟨blocks, hevents, hblocks⟩ := events_eq_blocks stumbling exampleContext .never
  obtain ⟨plan, hplan⟩ := exists_eq_ok_of_isOk
    (show (Plan.ofWorkflow stumbling).isOk = true by decide +kernel)
  have hok : (stumbling.run exampleContext .never).result.isOk = true := by decide +kernel
  have hclock : (stumbling.run exampleContext .never).history.clock = 0 := by decide +kernel
  rw [hok, hclock] at hevents
  rw [hplan] at hblocks
  exact ⟨blocks, hevents, hblocks.complete hok⟩

end FlowRouting
