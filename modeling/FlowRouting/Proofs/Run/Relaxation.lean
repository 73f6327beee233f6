import FlowRouting.Proofs.Condition.Modes
import FlowRouting.Proofs.Run.Part
import FlowRouting.Proofs.Run.Publication
import FlowRouting.Proofs.Run.Waiting

/-!
# Relaxed settings

Settings decide what becomes of a failure: of a clause that cannot be evaluated, and of a node. A
run that comes to a result has met no failure that its settings do not pass over, and under more
relaxed settings it makes the same visits. The two runs are compared step by step: a step that does
not stop the run under the given settings is visited in the same way under the relaxed ones and does
not stop the run there either.

If all is relaxed, then there is nothing left that could stop a run but its cancellation.
-/

namespace FlowRouting

/-! ## Relaxing settings -/

/-- Settings that have the same time limit and pass over whatever other settings pass over. -/
structure Settings.Relaxes (relaxed settings : Settings) : Prop where
  limit_eq : relaxed.maxExecutionTimeMs = settings.maxExecutionTimeMs
  lenient : settings.routing = .lenient → relaxed.routing = .lenient
  continues : settings.onError = .continueOnError → relaxed.onError = .continueOnError

/-- The workflow under other settings. -/
def Workflow.withSettings (w : Workflow) (settings : Settings) : Workflow :=
  { w with settings }

private def Plan.withSettings (plan : Plan) (settings : Settings) : Plan :=
  { plan with settings }

private def RunRequest.withSettings (r : RunRequest) (settings : Settings) : RunRequest :=
  { r with plan := r.plan.withSettings settings }

private theorem Plan.ofWorkflow_withSettings {w : Workflow} {plan : Plan}
    (h : Plan.ofWorkflow w = .ok plan) (settings : Settings) :
    Plan.ofWorkflow (w.withSettings settings) = .ok (plan.withSettings settings) := by
  -- Only the settings of a plan depend on those of its workflow.
  have hplan := ofWorkflow_eq_ok_iff.mp h
  exact ofWorkflow_eq_ok_iff.mpr { hplan with settings_eq := rfl }

/-! ## Executing a task -/

namespace NodeContext

variable {ctx : NodeContext} {mode : RoutingMode}

private theorem route_congr {c : Condition}
    (h : Routing.choose ctx.bindings (c.mode.getD mode) c.paths =
      Routing.choose ctx.bindings (c.mode.getD ctx.routing) c.paths) :
    NodeContext.route { ctx with routing := mode } c = ctx.route c := by
  simp only [route, h]
  rfl

private theorem route_of_relaxes (hmode : ctx.routing = .lenient → mode = .lenient) {c : Condition}
    {output : NodeOutput} (h : (ctx.route c).result = .ok output) :
    NodeContext.route { ctx with routing := mode } c = ctx.route c := by
  obtain ⟨s, hs, _⟩ := exists_selection_of_route h
  refine route_congr ?_
  cases hown : c.mode with
  | some own => rfl
  | none =>
    rw [hown] at hs
    simp only [Option.getD_none] at hs ⊢
    -- Nothing is to be shown unless the choice was strict and is lenient now.
    cases hrouting : ctx.routing with
    | lenient => rw [hmode hrouting]
    | strict =>
      rw [hrouting] at hs
      cases mode with
      | strict => rfl
      | lenient => exact Routing.choose_lenient_of_strict hs

end NodeContext

private theorem Task.execute_routing {task : Task} (h : task.nodeType ≠ .condition)
    (ctx : NodeContext) (mode : RoutingMode) :
    task.execute { ctx with routing := mode } = task.execute ctx := by
  cases task with
  | condition c => exact absurd rfl h
  | debugLog | input | output | text | delay | jsonParse | jsonStringify => rfl

/-! ## Two runs in step -/

namespace RunRequest

variable {r : RunRequest} {settings : Settings} {h : History} {s : Step}

private theorem result_ending_of_condition {c : Condition} (hcondition : s.task = .condition c) :
    (r.ending h s).result = ((r.nodeContext h s.node).route c).result := by
  have hwait : (s.task.execute (r.nodeContext h s.node)).wait = 0 :=
    Task.wait_eq_zero (by rw [hcondition, Task.nodeType]; decide) _
  rw [ending_of_wait_eq_zero hwait, hcondition, Task.execute]

private theorem exists_output_of_stop? (htask : s.node.spec.task = .ok s.task) {c : Condition}
    (hcondition : s.task = .condition c) (hskip : ¬r.Skips h s)
    (hstop : r.stop? s (r.visit h s) = none) :
    ∃ output, ((r.nodeContext h s.node).route c).result = .ok output := by
  cases hroute : ((r.nodeContext h s.node).route c).result with
  | ok output => exact ⟨output, rfl⟩
  | error error =>
    -- The error would be one of choosing, and these stop the run.
    obtain ⟨e, rfl⟩ : ∃ e, error = .evaluation e := by
      rw [NodeContext.result_route] at hroute
      obtain ⟨e, _, heq⟩ := mapError_eq_error_iff.mp (map_eq_error_iff.mp hroute)
      exact ⟨e, heq.symm⟩
    have herror : (r.visit h s).error? = some (.evaluation e) :=
      error?_eq_some_iff.mpr ⟨hskip, (result_ending_of_condition hcondition).trans hroute⟩
    have htype : s.task.nodeType = .condition := by rw [hcondition, Task.nodeType]
    have hchoice := (stop?_eq_none_iff.mp hstop _ herror).2.2
    exact absurd rfl (hchoice ((NodeSpec.isCondition_iff_of_task htask).mpr htype) e)

private theorem nodeContext_withSettings (node : NamedNode) :
    (r.withSettings settings).nodeContext h node =
      { r.nodeContext h node with routing := settings.routing } := rfl

/-- A step that does not stop a run is executed in the same way under relaxed settings. -/
private theorem execute_of_relaxes (hrelaxes : settings.Relaxes r.plan.settings)
    (htask : s.node.spec.task = .ok s.task) (hskip : ¬r.Skips h s)
    (hstop : r.stop? s (r.visit h s) = none) :
    s.task.execute ((r.withSettings settings).nodeContext h s.node) =
      s.task.execute (r.nodeContext h s.node) := by
  have hmode : (r.nodeContext h s.node).routing = .lenient → settings.routing = .lenient :=
    hrelaxes.lenient
  rw [nodeContext_withSettings]
  cases hcondition : s.task with
  | condition c =>
    obtain ⟨output, houtput⟩ := exists_output_of_stop? htask hcondition hskip hstop
    rw [Task.execute, Task.execute]
    exact NodeContext.route_of_relaxes hmode houtput
  | _ =>
    refine Task.execute_routing ?_ _ _
    intro htype
    cases htype

private theorem visit_of_relaxes (hrelaxes : settings.Relaxes r.plan.settings)
    (htask : s.node.spec.task = .ok s.task) (hstop : r.stop? s (r.visit h s) = none) :
    (r.withSettings settings).visit h s = r.visit h s := by
  by_cases hskip : r.Skips h s
  · have hskip' : (r.withSettings settings).Skips h s := hskip
    rw [visit_of_skips hskip, visit_of_skips hskip']
  · have hskip' : ¬(r.withSettings settings).Skips h s := hskip
    have hlimit : (r.withSettings settings).plan.settings.maxExecutionTimeMs =
        r.plan.settings.maxExecutionTimeMs := hrelaxes.limit_eq
    rw [visit_of_not_skips hskip, visit_of_not_skips hskip', ending, ending,
      execute_of_relaxes hrelaxes htask hskip hstop, hlimit]
    rfl

private theorem stop?_of_relaxes (hrelaxes : settings.Relaxes r.plan.settings) {v : Visit}
    (hstop : r.stop? s v = none) : (r.withSettings settings).stop? s v = none := by
  refine stop?_eq_none_iff.mpr fun e he ↦ ?_
  obtain ⟨hcancelled, honError, hchoice⟩ := stop?_eq_none_iff.mp hstop e he
  exact ⟨hcancelled, hrelaxes.continues honError, hchoice⟩

/-- A run that nothing stops is the same under relaxed settings. -/
private theorem visitAll_of_relaxes (hrelaxes : settings.Relaxes r.plan.settings)
    {steps : List Step} (htasks : ∀ s ∈ steps, s.node.spec.task = .ok s.task) {h : History}
    (hnone : (r.visitAll steps h).2 = none) :
    (r.withSettings settings).visitAll steps h = r.visitAll steps h := by
  induction steps generalizing h with
  | nil => rfl
  | cons s steps ih =>
    rw [List.forall_mem_cons] at htasks
    rw [visitAll] at hnone
    rw [visitAll, visitAll]
    have hdue : (r.withSettings settings).cancellation.isDue h.clock =
        r.cancellation.isDue h.clock := rfl
    rw [hdue]
    -- A run with a result has met no cancellation and nothing that stops it.
    split at hnone
    · cases hnone
    · cases hstop : r.stop? s (r.visit h s) with
      | some e =>
        simp only [hstop] at hnone
        cases hnone
      | none =>
        simp only [hstop] at hnone ⊢
        simp only [visit_of_relaxes hrelaxes htasks.1 hstop, stop?_of_relaxes hrelaxes hstop]
        rw [ih htasks.2 hnone]

private theorem run_of_relaxes (hrelaxes : settings.Relaxes r.plan.settings)
    (htasks : ∀ s ∈ r.plan.steps, s.node.spec.task = .ok s.task) {res : RunResult}
    (hok : r.run.result = .ok res) : (r.withSettings settings).run = r.run := by
  have hall : (r.withSettings settings).visitAll (r.withSettings settings).plan.steps [] =
      r.visitAll r.plan.steps [] :=
    visitAll_of_relaxes hrelaxes htasks (result_run_eq_ok_iff.mp hok).1
  rw [run, run, hall]
  rfl

end RunRequest

/-- **Relaxing settings does not change a successful run.** A run that comes to a result comes to
the same one, with the same events, under settings that have the same time limit and pass over
whatever the given ones pass over. -/
theorem run_eq_of_relaxes {w : Workflow} {settings : Settings}
    (hrelaxes : settings.Relaxes w.settings) {context : RunContext} {cancellation : Cancellation}
    {res : RunResult} (h : (w.run context cancellation).result = .ok res) :
    ((w.withSettings settings).run context cancellation).result = .ok res ∧
      ((w.withSettings settings).run context cancellation).events =
        (w.run context cancellation).events := by
  obtain ⟨plan, hplan⟩ := exists_plan_of_run_ok h
  have hrealizes := Plan.ofWorkflow_eq_ok_iff.mp hplan
  rw [← hrealizes.settings_eq] at hrelaxes
  have hplan' := Plan.ofWorkflow_withSettings hplan settings
  have hsame : (w.withSettings settings).run context cancellation =
      w.run context cancellation := by
    rw [run_eq_of_plan hplan] at h
    rw [run_eq_of_plan hplan, run_eq_of_plan hplan']
    exact RunRequest.run_of_relaxes hrelaxes hrealizes.task_eq h
  rw [hsame]
  exact ⟨h, rfl⟩

/-! ### A gate with a clause that is not reached

The second clause of the path that is taken could not be evaluated. -/

/-- A condition whose first path does not hold, and whose second path holds by its first clause. -/
def shortcut : Workflow where
  id := Uuid.nil
  name := "shortcut"
  nodes :=
    [{ id := "gate", nodeType := "condition",
        config := Condition.toFields
          ⟨[⟨"busy", "Busy", [⟨"c1", "input", .isNotEmpty, none⟩], .and⟩,
            ⟨"idle", "Idle", [⟨"c2", "input", .isEmpty, none⟩,
              ⟨"c3", "input", .startsWith, some "x"⟩], .or⟩,
            ⟨"else", "Else", [], .and⟩], none, none⟩ }]

def relaxedSettings : Settings where
  onError := .continueOnError
  routing := .lenient

/-- Strict or lenient, the gate takes its second path. -/
theorem run_eq_of_relaxes_shortcut :
    ∃ res, (shortcut.run exampleContext .never).result = .ok res ∧
      ((shortcut.withSettings relaxedSettings).run exampleContext .never).result = .ok res ∧
      ((shortcut.withSettings relaxedSettings).run exampleContext .never).events =
        (shortcut.run exampleContext .never).events := by
  have hrelaxes : relaxedSettings.Relaxes shortcut.settings := ⟨rfl, nofun, nofun⟩
  obtain ⟨res, hres⟩ := exists_eq_ok_of_isOk
    (show (shortcut.run exampleContext .never).result.isOk = true by decide +kernel)
  obtain ⟨hrelaxed, hevents⟩ := run_eq_of_relaxes hrelaxes hres
  exact ⟨res, hres, hrelaxed, hevents⟩

/-! ## Nothing left that stops a run -/

/-- The error is that of what a node does, and not of what befalls it. -/
private def NodeError.IsOwn : NodeError → Prop
  | .cancelled | .timeout _ => False
  | _ => True

private theorem failsBy_evaluating {α : Type} (x : Except EvalError α) :
    FailsBy NodeError.IsOwn (evaluating x) :=
  .mapError (fun _ ↦ trivial) x

namespace NodeContext

variable (ctx : NodeContext)

private theorem failsBy_requireInput (name : String) :
    FailsBy NodeError.IsOwn (ctx.requireInput name) := by
  rw [requireInput]
  split
  · exact .ok _
  · exact .error trivial

private theorem failsBy_readInput (subtype key : String) (default : Value) :
    FailsBy NodeError.IsOwn (ctx.readInput subtype key default) := by
  rw [readInput]
  refine .bind (failsBy_evaluating _) fun found ↦ ?_
  dsimp only
  split
  · split
    · exact .mapError (fun _ ↦ trivial) _
    · exact .ok _
  · exact .ok _

private theorem failsBy_debugMessage (message : Option String) :
    FailsBy NodeError.IsOwn (ctx.debugMessage message) := by
  cases message with
  | none => exact .ok _
  | some template => exact failsBy_evaluating _

private theorem failsBy_parseJson (source : Option String) :
    FailsBy NodeError.IsOwn (ctx.parseJson source) := by
  refine .bind ?_ fun text ↦ .mapError (fun _ ↦ trivial) _
  cases source with
  | some template => exact failsBy_evaluating _
  | none =>
    refine .bind (ctx.failsBy_requireInput _) fun v ↦ ?_
    split
    · exact .ok _
    · exact .error trivial

private theorem failsBy_writeJson (source : Option String) :
    FailsBy NodeError.IsOwn (ctx.writeJson source) := by
  rw [writeJson.eq_def]
  cases source with
  | some operand => exact .bind (failsBy_evaluating _) fun v ↦ .ok _
  | none => exact .bind (ctx.failsBy_requireInput _) fun v ↦ .ok _

end NodeContext

private theorem Task.failsBy_result (task : Task) (ctx : NodeContext) :
    FailsBy NodeError.IsOwn (task.execute ctx).result := by
  cases task with
  | condition c =>
    rw [execute, ctx.result_route]
    exact (failsBy_evaluating _).map
  | debugLog message =>
    rw [execute, NodeContext.debugLog]
    split
    · next e hmessage => exact .error (ctx.failsBy_debugMessage message e hmessage)
    · exact .ok _
  | input subtype key default => exact .map (ctx.failsBy_readInput subtype key default)
  | output value =>
    rw [execute, NodeContext.publish]
    split
    · exact .error trivial
    · exact .ok _
  | text template => exact .map (failsBy_evaluating _)
  | delay ms => exact .ok _
  | jsonParse source => exact .map (ctx.failsBy_parseJson source)
  | jsonStringify source => exact .map (ctx.failsBy_writeJson source)

namespace RunRequest

variable {r : RunRequest} {s : Step} {h : History}

private theorem result_ending_ne_cancelled (hnever : r.cancellation = .never) :
    (r.ending h s).result ≠ .error .cancelled := by
  intro hcancelled
  rw [ending, hnever, Execution.finish_never] at hcancelled
  rcases (s.task.execute (r.nodeContext h s.node)).result_undisturbed
    (r.plan.settings.maxExecutionTimeMs.map UInt64.toNat) with hown | ⟨ms, htimeout⟩
  · exact Task.failsBy_result _ _ _ (hown.symm.trans hcancelled)
  · cases htimeout.symm.trans hcancelled

private theorem exists_result_ending_of_lenient {c : Condition} (hcondition : s.task = .condition c)
    (hpaths : c.paths ≠ []) (hlenient : c.mode.getD r.plan.settings.routing = .lenient) :
    ∃ output, (r.ending h s).result = .ok output := by
  obtain ⟨selection, hselection⟩ := Routing.exists_selection_of_choose_lenient
    (r.nodeContext h s.node).bindings hpaths
  have hmode : c.mode.getD (r.nodeContext h s.node).routing = .lenient := hlenient
  refine ⟨selection.output c.variableName, ?_⟩
  rw [result_ending_of_condition hcondition, NodeContext.result_route, hmode, hselection]
  rfl

/-- Where all is relaxed, nothing stops a run that nobody cancels. -/
theorem stop?_eq_none_of_relaxed (hnever : r.cancellation = .never)
    (honError : r.plan.settings.onError = .continueOnError)
    (htask : s.node.spec.task = .ok s.task)
    (hlenient : ∀ c, s.task = .condition c → c.paths ≠ [] ∧
      c.mode.getD r.plan.settings.routing = .lenient) :
    r.stop? s (r.visit h s) = none := by
  refine stop?_eq_none_iff.mpr fun e he ↦ ?_
  have hresult := result_of_error? he
  refine ⟨?_, honError, fun hcondition source hsource ↦ ?_⟩
  · rintro rfl
    exact result_ending_ne_cancelled hnever hresult
  · obtain ⟨c, hc, _⟩ := exists_condition_of_task htask (beq_iff_eq.mp hcondition)
    obtain ⟨output, houtput⟩ :=
      exists_result_ending_of_lenient (h := h) hc (hlenient c hc).1 (hlenient c hc).2
    cases hresult.symm.trans houtput

private theorem visitAll_of_stop? (hnever : r.cancellation = .never) {steps : List Step}
    (hstop : ∀ s ∈ steps, ∀ h, r.stop? s (r.visit h s) = none) :
    (r.visitAll steps h).2 = none := by
  refine (visitAll_eq_none_iff hnever).mpr ?_
  induction steps generalizing h with
  | nil => simp
  | cons s steps ih =>
    rw [List.forall_mem_cons] at hstop
    rw [visits_cons, List.zip_cons_cons, List.forall_mem_cons]
    exact ⟨hstop.1 h, ih hstop.2⟩

end RunRequest

/-- **A fully relaxed run comes to a result.** If a workflow passes the checks, routes leniently and
goes on behind failures, and if none of its conditions insists on being strict, then a run of it
that nobody cancels has a result, whatever the input and the time limit. -/
theorem exists_result_of_relaxed {w : Workflow} {plan : Plan}
    (hplan : Plan.ofWorkflow w = .ok plan) (hrouting : w.settings.routing = .lenient)
    (honError : w.settings.onError = .continueOnError)
    (hmodes : ∀ spec ∈ w.nodes, spec.isCondition = true →
      ∀ c, Condition.ofFields spec.id spec.config = .ok c → c.mode ≠ some .strict)
    (context : RunContext) : ∃ res, (w.run context .never).result = .ok res := by
  have hrealizes := Plan.ofWorkflow_eq_ok_iff.mp hplan
  rw [← hrealizes.settings_eq] at hrouting honError
  have hlenient : ∀ s ∈ plan.steps, ∀ c, s.task = .condition c → c.paths ≠ [] ∧
      c.mode.getD plan.settings.routing = .lenient := by
    intro s hs c hc
    have htask := hrealizes.task_eq s hs
    rw [hc] at htask
    obtain ⟨hcondition, hread⟩ := NodeSpec.ofFields_of_task htask
    have hspec := hrealizes.represents.spec_mem (hrealizes.node_mem hs)
    have hmode := hmodes _ hspec hcondition c hread
    refine ⟨(Condition.isWellFormed_of_ofFields hread).paths_ne_nil, ?_⟩
    rw [hrouting]
    cases hown : c.mode with
    | none => rfl
    | some mode =>
      cases mode with
      | lenient => rfl
      | strict => exact absurd hown hmode
  have hnone : (RunRequest.visitAll ⟨plan, context, .never⟩ plan.steps []).2 = none :=
    RunRequest.visitAll_of_stop? rfl fun s hs h ↦
      RunRequest.stop?_eq_none_of_relaxed rfl honError (hrealizes.task_eq s hs) (hlenient s hs)
  rw [run_eq_of_plan hplan]
  exact ⟨_, RunRequest.result_run_eq_ok_iff.mpr ⟨hnone, rfl⟩⟩

/-! ### A run with nothing but failures

A delay that takes longer than it may, a text that is not JSON, and behind them a condition whose
only clause reads what neither has put out. -/

def batteredCondition : Condition :=
  ⟨[⟨"parsed", "Parsed", [⟨"c", "broken.parsed", .isNotEmpty, none⟩], .and⟩,
    ⟨"else", "Else", [], .and⟩], none, none⟩

/-- Two nodes that fail, and a condition that depends on them. -/
def battered : Workflow where
  id := Uuid.nil
  name := "battered"
  nodes :=
    [{ id := "slow", nodeType := "time.delay", config := [("delay_ms", .number (.ofInt 50))] },
      { id := "broken", nodeType := "transform.json_parse", config := [("json", .text "[")] },
      { id := "gate", nodeType := "condition", config := batteredCondition.toFields }]
  edges := [{ source := "slow", target := "gate" }, { source := "broken", target := "gate" }]
  settings := { relaxedSettings with maxExecutionTimeMs := some 10 }

/-- The run comes to a result nevertheless. -/
theorem exists_result_of_relaxed_battered :
    ∃ res, (battered.run exampleContext .never).result = .ok res := by
  obtain ⟨plan, hplan⟩ := exists_eq_ok_of_isOk
    (show (Plan.ofWorkflow battered).isOk = true by decide +kernel)
  refine exists_result_of_relaxed hplan rfl rfl ?_ exampleContext
  have hread : Condition.ofFields "gate" batteredCondition.toFields = .ok batteredCondition := rfl
  intro spec hspec hcondition c hc
  simp only [battered, List.mem_cons, List.not_mem_nil, or_false] at hspec
  rcases hspec with rfl | rfl | rfl
  · cases hcondition
  · cases hcondition
  · cases hread.symm.trans hc
    exact nofun

end FlowRouting
