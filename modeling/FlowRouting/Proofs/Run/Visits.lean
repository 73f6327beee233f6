import FlowRouting.Proofs.Fallible
import FlowRouting.Proofs.Graph.Building
import FlowRouting.Run.Basic

/-!
# The visits of a run

A run interleaves visits with the question whether it has to stop. `RunRequest.visits` leaves that
question out and lists the visits that a row of steps would make; the history of a run is then the
list for an initial part of its steps, and for all of them if the run has a result. Every visit of a
run is thus the visit of a known step after a known history, which is how later proofs find out what
a node has read.
-/

namespace FlowRouting

/-! ## Plans of workflows -/

/-- A plan has the graph of a workflow that passed all checks, and its tasks along that graph. -/
structure Plan.Realizes (plan : Plan) (w : Workflow) : Prop where
  build_eq : Graph.build w = .ok plan.graph
  valid : ∃ warnings, plan.graph.validate Schemas.standard = .ok warnings
  checked : ∀ spec ∈ w.nodes, spec.check = .ok ()
  nodes_eq : plan.steps.map Step.node = plan.graph.nodes
  task_eq : ∀ s ∈ plan.steps, s.node.spec.task = .ok s.task
  settings_eq : plan.settings = w.settings

private theorem forall₂_step_iff {nodes : List NamedNode} {steps : List Step} :
    List.Forall₂ (fun node step ↦
        (node.spec.task.map fun task ↦ (⟨node, task⟩ : Step)).mapError RunError.workflow = .ok step)
        nodes steps ↔
      steps.map Step.node = nodes ∧ ∀ s ∈ steps, s.node.spec.task = .ok s.task := by
  induction steps generalizing nodes with
  | nil =>
    rw [List.forall₂_nil_right_iff, List.map_nil]
    exact ⟨fun h ↦ ⟨h.symm, nofun⟩, fun h ↦ h.1.symm⟩
  | cons s steps ih =>
    rw [List.forall₂_cons_right_iff, List.map_cons, List.forall_mem_cons]
    constructor
    · rintro ⟨node, nodes, hstep, hrest, rfl⟩
      obtain ⟨task, htask, rfl⟩ := map_eq_ok_iff.mp (mapError_eq_ok_iff.mp hstep)
      obtain ⟨hnodes, htasks⟩ := ih.mp hrest
      exact ⟨by rw [hnodes], htask, htasks⟩
    · rintro ⟨rfl, htask, htasks⟩
      exact ⟨s.node, _, mapError_eq_ok_iff.mpr (map_eq_ok_iff.mpr ⟨s.task, htask, rfl⟩),
        ih.mpr ⟨rfl, htasks⟩, rfl⟩

/-- What making a plan comes to, without the order in which the checks are made. -/
theorem Plan.ofWorkflow_eq_ok_iff {w : Workflow} {plan : Plan} :
    Plan.ofWorkflow w = .ok plan ↔ plan.Realizes w := by
  constructor
  · intro h
    obtain ⟨g, hbuild, h⟩ := bind_eq_ok_iff.mp h
    obtain ⟨warnings, hvalid, h⟩ := bind_eq_ok_iff.mp h
    obtain ⟨⟨⟩, hchecks, h⟩ := bind_eq_ok_iff.mp h
    obtain ⟨steps, hsteps, h⟩ := bind_eq_ok_iff.mp h
    cases h
    obtain ⟨hnodes, htasks⟩ := forall₂_step_iff.mp (mapM_eq_ok_iff.mp hsteps)
    exact
      { build_eq := mapError_eq_ok_iff.mp hbuild
        valid := ⟨warnings, mapError_eq_ok_iff.mp hvalid⟩
        checked := forM_eq_ok_iff.mp hchecks
        nodes_eq := hnodes
        task_eq := htasks
        settings_eq := rfl }
  · intro h
    obtain ⟨warnings, hvalid⟩ := h.valid
    have hsteps := mapM_eq_ok_iff.mpr (forall₂_step_iff.mpr ⟨h.nodes_eq, h.task_eq⟩)
    refine bind_eq_ok_iff.mpr ⟨plan.graph, mapError_eq_ok_iff.mpr h.build_eq, ?_⟩
    refine bind_eq_ok_iff.mpr ⟨warnings, mapError_eq_ok_iff.mpr hvalid, ?_⟩
    refine bind_eq_ok_iff.mpr ⟨(), forM_eq_ok_iff.mpr h.checked, ?_⟩
    refine bind_eq_ok_iff.mpr ⟨plan.steps, hsteps, ?_⟩
    rw [← h.settings_eq]
    rfl

namespace Plan.Realizes

variable {plan : Plan} {w : Workflow}

theorem represents (h : plan.Realizes w) : plan.graph.Represents w :=
  Graph.represents_of_build h.build_eq

theorem map_id_steps (h : plan.Realizes w) : plan.steps.map Step.id = plan.graph.order := by
  have hid : Step.id = NamedNode.id ∘ Step.node := rfl
  rw [hid, ← List.map_map, h.nodes_eq, Graph.order]

theorem length_steps (h : plan.Realizes w) : plan.steps.length = w.nodes.length := by
  have hlength := h.represents.order_perm.length_eq
  rwa [← h.map_id_steps, List.length_map, List.length_map] at hlength

theorem node_mem (h : plan.Realizes w) {s : Step} (hs : s ∈ plan.steps) :
    s.node ∈ plan.graph.nodes := by
  rw [← h.nodes_eq]
  exact List.mem_map_of_mem hs

end Plan.Realizes

/-! ## Endings -/

private theorem Execution.finish_result (e : Execution) (limit : Option Nat) (c : Cancellation)
    (clock : Nat) :
    (e.finish limit c clock).result = .error .cancelled ∨
      (∃ ms, (e.finish limit c clock).result = .error (.timeout ms)) ∨
      (e.finish limit c clock).result = e.result := by
  rw [finish]
  simp only
  split
  · split
    · exact Or.inl rfl
    · exact Or.inr (Or.inl ⟨_, rfl⟩)
  · split
    · exact Or.inl rfl
    · exact Or.inr (Or.inr rfl)

/-! ## Visits in a row -/

namespace RunRequest

variable (r : RunRequest)

/-- The visits of steps one after the other, behind the visits of a history, whatever comes of
them. -/
def visits (h : History) : List Step → List Visit
  | [] => []
  | s :: steps => r.visit h s :: visits (h ++ [r.visit h s]) steps

@[simp] theorem visits_nil (h : History) : r.visits h [] = [] := rfl

@[simp] theorem visits_cons (h : History) (s : Step) (steps : List Step) :
    r.visits h (s :: steps) = r.visit h s :: r.visits (h ++ [r.visit h s]) steps := rfl

theorem visits_append (h : History) (steps steps' : List Step) :
    r.visits h (steps ++ steps') = r.visits h steps ++ r.visits (h ++ r.visits h steps) steps' := by
  induction steps generalizing h with
  | nil => rw [List.nil_append, visits_nil, List.nil_append, List.append_nil]
  | cons s steps ih =>
    rw [List.cons_append, visits_cons, visits_cons, ih, List.cons_append, List.append_assoc,
      List.singleton_append]

@[simp] theorem nodeId_visit (h : History) (s : Step) : (r.visit h s).nodeId = s.id := by
  rw [visit]
  split <;> rfl

@[simp] theorem map_nodeId_visits (h : History) (steps : List Step) :
    (r.visits h steps).map Visit.nodeId = steps.map Step.id := by
  induction steps generalizing h with
  | nil => rfl
  | cons s steps ih => rw [visits_cons, List.map_cons, nodeId_visit, ih, List.map_cons]

@[simp] theorem length_visits (h : History) (steps : List Step) :
    (r.visits h steps).length = steps.length := by
  have hlength := congrArg List.length (r.map_nodeId_visits h steps)
  rwa [List.length_map, List.length_map] at hlength

variable {r}

/-- Each of the visits in a row is the visit of its step after the visits before it. -/
theorem exists_step_of_visits_eq {h before after : History} {v : Visit} {steps : List Step}
    (hvisits : r.visits h steps = before ++ v :: after) :
    ∃ prior s rest, steps = prior ++ s :: rest ∧ before = r.visits h prior ∧
      v = r.visit (h ++ before) s := by
  -- The history moves on with every step, so it is generalized together with the visits before.
  induction steps generalizing h before with
  | nil => exact absurd hvisits.symm (by simp)
  | cons s steps ih =>
    rw [visits_cons] at hvisits
    cases before with
    | nil =>
      rw [List.nil_append, List.cons.injEq] at hvisits
      exact ⟨[], s, steps, rfl, rfl, by rw [List.append_nil, hvisits.1]⟩
    | cons u before =>
      rw [List.cons_append, List.cons.injEq] at hvisits
      obtain ⟨rfl, hvisits⟩ := hvisits
      obtain ⟨prior, s', rest, rfl, rfl, rfl⟩ := ih hvisits
      exact ⟨s :: prior, s', rest, rfl, rfl, by rw [List.append_assoc, List.singleton_append]⟩

/-- A run visits its steps in a row up to some step, and up to the last one if nothing stops it. -/
theorem exists_visits_of_visitAll (steps : List Step) (h : History) :
    ∃ done rest, steps = done ++ rest ∧ (r.visitAll steps h).1 = h ++ r.visits h done ∧
      ((r.visitAll steps h).2 = none → rest = []) := by
  induction steps generalizing h with
  | nil => exact ⟨[], [], rfl, by simp [visitAll], fun _ ↦ rfl⟩
  | cons s steps ih =>
    rw [visitAll]
    by_cases hdue : r.cancellation.isDue h.clock
    · rw [if_pos hdue]
      exact ⟨[], s :: steps, rfl, by simp, by simp⟩
    · rw [if_neg hdue]
      cases hstop : r.stop? s (r.visit h s) with
      | some e => exact ⟨[s], steps, rfl, by simp [hstop], by simp [hstop]⟩
      | none =>
        obtain ⟨done, rest, rfl, hhistory, hrest⟩ := ih (h ++ [r.visit h s])
        refine ⟨s :: done, rest, rfl, ?_, ?_⟩
        · simp [hstop, hhistory]
        · simpa [hstop] using hrest

/-! ## The two kinds of visits -/

/-- A step is skipped if there are edges that lead to its node but none that leads on. -/
def Skips (r : RunRequest) (h : History) (s : Step) : Prop :=
  r.plan.graph.incoming s.id ≠ [] ∧ r.activeEdges h s.id = []

theorem visit_of_skips {h : History} {s : Step} (hskip : r.Skips h s) :
    r.visit h s = .skipped s.id := by
  rw [visit, if_pos]
  simpa [Skips, List.isEmpty_eq_false_iff] using hskip

/-- The end of the execution of a step after the visits of a history. -/
def ending (r : RunRequest) (h : History) (s : Step) : Ending :=
  (s.task.execute (r.nodeContext h s.node)).finish
    (r.plan.settings.maxExecutionTimeMs.map UInt64.toNat) r.cancellation h.clock

theorem result_of_ending {h : History} {s : Step} {result : Except NodeError NodeOutput}
    (hresult : (r.ending h s).result = result) (hcancelled : result ≠ .error .cancelled)
    (htimeout : ∀ ms, result ≠ .error (.timeout ms)) :
    (s.task.execute (r.nodeContext h s.node)).result = result := by
  rw [ending] at hresult
  rcases Execution.finish_result (s.task.execute (r.nodeContext h s.node))
    (r.plan.settings.maxExecutionTimeMs.map UInt64.toNat) r.cancellation h.clock
    with hc | ⟨ms, ht⟩ | hdone
  · exact absurd (hresult.symm.trans hc) hcancelled
  · exact absurd (hresult.symm.trans ht) (htimeout ms)
  · exact hdone.symm.trans hresult

theorem visit_of_not_skips {h : History} {s : Step} (hskip : ¬r.Skips h s) :
    r.visit h s = .executed s.id s.node.spec.nodeType
      (s.task.execute (r.nodeContext h s.node)).notes (r.ending h s) := by
  rw [visit, if_neg]
  · rfl
  · simpa [Skips, List.isEmpty_eq_false_iff] using hskip

theorem visit_eq_executed {h : History} {s : Step} {id nodeType : String} {notes : List Note}
    {ending : Ending} (hvisit : r.visit h s = .executed id nodeType notes ending) :
    id = s.id ∧ nodeType = s.node.spec.nodeType ∧
      notes = (s.task.execute (r.nodeContext h s.node)).notes ∧ ending = r.ending h s := by
  by_cases hskip : r.Skips h s
  · rw [visit_of_skips hskip] at hvisit
    cases hvisit
  · rw [visit_of_not_skips hskip] at hvisit
    cases hvisit
    exact ⟨rfl, rfl, rfl, rfl⟩

theorem result_of_output? {h : History} {s : Step} {output : NodeOutput}
    (houtput : (r.visit h s).output? = some output) : (r.ending h s).result = .ok output := by
  by_cases hskip : r.Skips h s
  · rw [visit_of_skips hskip] at houtput
    cases houtput
  · rw [visit_of_not_skips hskip] at houtput
    rcases hending : r.ending h s with ⟨duration, e | output'⟩
    · rw [hending] at houtput
      cases houtput
    · rw [hending] at houtput
      cases houtput
      rfl

/-- The error of a visit is that with which its node ended. -/
theorem error?_eq_some_iff {h : History} {s : Step} {e : NodeError} :
    (r.visit h s).error? = some e ↔ ¬r.Skips h s ∧ (r.ending h s).result = .error e := by
  by_cases hskip : r.Skips h s
  · rw [visit_of_skips hskip]
    simp [Visit.error?, hskip]
  · rw [visit_of_not_skips hskip]
    rcases r.ending h s with ⟨duration, e' | output⟩ <;> simp [Visit.error?, hskip]

theorem result_of_error? {h : History} {s : Step} {e : NodeError}
    (herror : (r.visit h s).error? = some e) : (r.ending h s).result = .error e :=
  (error?_eq_some_iff.mp herror).2

/-! ### What a run makes of its visits -/

/-- A run goes on behind a visit if the node did not fail, or if failures are passed over and it
failed neither for a cancellation nor, being a condition, for want of a choice. -/
theorem stop?_eq_none_iff {s : Step} {v : Visit} : r.stop? s v = none ↔
    ∀ e ∈ v.error?, e ≠ .cancelled ∧ r.plan.settings.onError = .continueOnError ∧
      (s.node.spec.isCondition = true → ∀ source, e ≠ .evaluation source) := by
  rw [stop?]
  cases v.error? with
  | none => simp
  | some e =>
    cases e with
    | cancelled => simp
    | evaluation source =>
      cases s.node.spec.isCondition with
      | true => simp
      | false => cases r.plan.settings.onError <;> simp
    | _ => cases r.plan.settings.onError <;> simp

theorem history_run (r : RunRequest) : r.run.history = (r.visitAll r.plan.steps []).1 := by
  rw [run]
  split <;> next hall => rw [hall]

theorem result_run_eq_ok_iff {res : RunResult} :
    r.run.result = .ok res ↔ (r.visitAll r.plan.steps []).2 = none ∧
      res = .ofHistory r.context.executionId r.plan.graph.nodes.length
        (r.visitAll r.plan.steps []).1 := by
  rw [run]
  split
  · next hall => simp [hall]
  · next hall => simp [hall, eq_comm]

theorem result_run_eq_error_iff {e : RunError} :
    r.run.result = .error e ↔ (r.visitAll r.plan.steps []).2 = some e := by
  rw [run]
  split
  · next hall => simp [hall]
  · next hall => simp [hall]

end RunRequest

/-! ## Runs of workflows -/

section Run

variable {w : Workflow} {context : RunContext} {cancellation : Cancellation}

theorem run_eq_of_plan {plan : Plan} (hplan : Plan.ofWorkflow w = .ok plan) :
    w.run context cancellation = RunRequest.run ⟨plan, context, cancellation⟩ := by
  rw [Workflow.run, hplan]

theorem exists_plan_of_run_ok {res : RunResult}
    (h : (w.run context cancellation).result = .ok res) : ∃ plan, Plan.ofWorkflow w = .ok plan := by
  rw [Workflow.run] at h
  cases hplan : Plan.ofWorkflow w with
  | error e =>
    rw [hplan] at h
    cases h
  | ok plan => exact ⟨plan, rfl⟩

/-- What a run of a workflow with a plan has visited; all steps, if it has a result. -/
theorem exists_visits_of_run {plan : Plan} (hplan : Plan.ofWorkflow w = .ok plan)
    (context : RunContext) (cancellation : Cancellation) :
    ∃ done rest, plan.steps = done ++ rest ∧
      (w.run context cancellation).history =
        RunRequest.visits ⟨plan, context, cancellation⟩ [] done ∧
      ∀ res, (w.run context cancellation).result = .ok res → rest = [] ∧
        res = .ofHistory context.executionId plan.graph.nodes.length
          (w.run context cancellation).history := by
  obtain ⟨done, rest, hsteps, hhistory, hrest⟩ :=
    RunRequest.exists_visits_of_visitAll (r := ⟨plan, context, cancellation⟩) plan.steps []
  rw [run_eq_of_plan hplan, RunRequest.history_run]
  refine ⟨done, rest, hsteps, hhistory, fun res hres ↦ ?_⟩
  obtain ⟨hnone, rfl⟩ := RunRequest.result_run_eq_ok_iff.mp hres
  exact ⟨hrest hnone, rfl⟩

theorem exists_step_of_visit {before after : History} {v : Visit}
    (h : (w.run context cancellation).history = before ++ v :: after) :
    ∃ plan s, Plan.ofWorkflow w = .ok plan ∧ s ∈ plan.steps ∧
      v = RunRequest.visit ⟨plan, context, cancellation⟩ before s := by
  cases hplan : Plan.ofWorkflow w with
  | error e =>
    rw [Workflow.run, hplan] at h
    exact absurd h.symm (by simp)
  | ok plan =>
    obtain ⟨done, rest, hsteps, hhistory, _⟩ := exists_visits_of_run hplan context cancellation
    rw [hhistory] at h
    obtain ⟨prior, s, later, rfl, _, hv⟩ := RunRequest.exists_step_of_visits_eq h
    rw [List.nil_append] at hv
    exact ⟨plan, s, rfl, by simp [hsteps], hv⟩

end Run

def exampleContext : RunContext :=
  ⟨Uuid.nil, Uuid.nil, .null, ⟨⟨2024, 1, 1, by decide⟩, TimeOfDay.midnight⟩⟩

end FlowRouting
