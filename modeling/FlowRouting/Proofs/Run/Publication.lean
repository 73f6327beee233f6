import FlowRouting.Proofs.Condition.Failure
import FlowRouting.Proofs.Run.Visits

/-!
# What a condition publishes

The selection of a condition reaches an observer twice: as output fields of the node, and as the
event of a path being taken, which is read back off the output fields. The record of the selection
is one more output field, under a name that the author of the condition chooses. A name that is one
of the fields of a selection puts the record in place of that field.
-/

namespace FlowRouting

/-! ## The output fields of a selection -/

namespace Selection

variable (s : Selection)

def fieldNames : List String :=
  ["matched", "pathId", "pathName"]

@[simp] theorem get?_record_matched : Dict.get? s.record "matched" = some (.bool s.matched) := by
  simp [record, Dict.ofList, Dict.get?_insert]

@[simp] theorem get?_record_pathId : Dict.get? s.record "pathId" = some (.text s.pathId) := by
  simp [record, Dict.ofList, Dict.get?_insert]

@[simp] theorem get?_record_pathName :
    Dict.get? s.record "pathName" = some (.text s.pathName) := by
  simp [record, Dict.ofList, Dict.get?_insert]

private theorem get?_toOutputs (variableName : Option String) {key : String} (hkey : key ≠ "") :
    Dict.get? (s.toOutputs variableName) key =
      if variableName = some key then some (.object s.record) else Dict.get? s.record key := by
  cases variableName with
  | none => rfl
  | some name =>
    rw [toOutputs]
    by_cases hname : name = ""
    · subst hname
      simp [hkey.symm]
    · rw [if_neg (by simpa using hname), Dict.get?_insert]
      simp only [Option.some.injEq]

end Selection

/-! ## The visit of a condition -/

/-- Whether the event is one of a path being taken. -/
def Event.isPathSelected : Event → Bool
  | .pathSelected .. => true
  | _ => false

def Visit.field? (v : Visit) (name : String) : Option Value :=
  v.output?.bind (·.outputs.get? name)

/-- A visit publishes a selection: its fields are output fields of the node, and the only event of a
path being taken is that of the selection. -/
structure Visit.Publishes (v : Visit) (s : Selection) : Prop where
  matched : v.field? "matched" = some (.bool s.matched)
  pathId : v.field? "pathId" = some (.text s.pathId)
  pathName : v.field? "pathName" = some (.text s.pathName)
  event : v.events.filter Event.isPathSelected =
    [.pathSelected v.nodeId s.pathId s.pathName s.matched]

private theorem filter_isPathSelected_events (id nodeType : String) (notes : List Note)
    (duration : Nat) (output : NodeOutput) :
    (Visit.executed id nodeType notes ⟨duration, .ok output⟩).events.filter
        Event.isPathSelected = (output.selectionEvent? id).toList := by
  have hnotes : (notes.map (Event.noted id)).filter Event.isPathSelected = [] := by
    simp [List.filter_eq_nil_iff, Event.isPathSelected]
  have hselection : (output.selectionEvent? id).toList.filter Event.isPathSelected =
      (output.selectionEvent? id).toList := by
    rw [NodeOutput.selectionEvent?]
    cases output.branch <;> simp [Event.isPathSelected]
  have hstarted : Event.isPathSelected (.nodeStarted id nodeType) = false := rfl
  have hcompleted : Event.isPathSelected (.nodeCompleted id output.outputs duration) = false := rfl
  rw [Visit.events, Ending.events, List.cons_append, List.filter_cons_of_neg (by simp [hstarted]),
    List.filter_append, hnotes, List.nil_append, List.filter_cons_of_neg (by simp [hcompleted]),
    hselection]

private theorem Selection.selectionEvent?_output (s : Selection) {variableName : Option String}
    (hname : ∀ name ∈ variableName, name ∉ fieldNames) (id : String) :
    (s.output variableName).selectionEvent? id =
      some (.pathSelected id s.pathId s.pathName s.matched) := by
  have hmatched : variableName ≠ some "matched" := fun h ↦ hname _ h (by decide)
  have hpathName : variableName ≠ some "pathName" := fun h ↦ hname _ h (by decide)
  have hbool : Value.asBool? (.bool s.matched) = some s.matched := rfl
  have htext : (Value.text s.pathName).toText = s.pathName := rfl
  rw [NodeOutput.selectionEvent?, output, s.get?_toOutputs variableName (by decide),
    s.get?_toOutputs variableName (by decide), if_neg hpathName, if_neg hmatched]
  simp [hbool, htext]

/-- A completed condition publishes its selection exactly if its variable does not go by the name of
a field of the selection. -/
theorem publishes_output_iff {id nodeType : String} {notes : List Note} {duration : Nat}
    {s : Selection} {variableName : Option String} :
    (Visit.executed id nodeType notes ⟨duration, .ok (s.output variableName)⟩).Publishes s ↔
      ∀ name ∈ variableName, name ∉ Selection.fieldNames := by
  have hfield : ∀ key, key ≠ "" →
      (Visit.executed id nodeType notes ⟨duration, .ok (s.output variableName)⟩).field? key =
        if variableName = some key then some (.object s.record) else Dict.get? s.record key :=
    fun key hkey ↦ s.get?_toOutputs variableName hkey
  constructor
  · -- The record is no truth value and no text, so it cannot pass for the field that it replaced.
    rintro hpublishes name rfl hmem
    have hmatched := hpublishes.matched
    have hpathId := hpublishes.pathId
    have hpathName := hpublishes.pathName
    rw [hfield _ (by decide)] at hmatched hpathId hpathName
    simp only [Selection.fieldNames, List.mem_cons, List.not_mem_nil, or_false] at hmem
    rcases hmem with rfl | rfl | rfl
    · simp at hmatched
    · simp at hpathId
    · simp at hpathName
  · intro hname
    have hfree : ∀ key ∈ Selection.fieldNames, variableName ≠ some key := fun key hkey h ↦
      hname key h hkey
    refine ⟨?_, ?_, ?_, ?_⟩
    · rw [hfield _ (by decide), if_neg (hfree _ (by decide)), s.get?_record_matched]
    · rw [hfield _ (by decide), if_neg (hfree _ (by decide)), s.get?_record_pathId]
    · rw [hfield _ (by decide), if_neg (hfree _ (by decide)), s.get?_record_pathName]
    · rw [filter_isPathSelected_events, s.selectionEvent?_output hname]
      rfl

/-! ## Completed conditions of a run -/

theorem exists_selection_of_route {ctx : NodeContext} {c : Condition} {output : NodeOutput}
    (h : (ctx.route c).result = .ok output) :
    ∃ s, (Routing.choose ctx.bindings (c.mode.getD ctx.routing) c.paths).outcome = .ok s ∧
      output = s.output c.variableName := by
  rw [ctx.result_route] at h
  obtain ⟨s, hs, rfl⟩ := map_eq_ok_iff.mp h
  exact ⟨s, mapError_eq_ok_iff.mp hs, rfl⟩

theorem exists_condition_of_task {spec : NodeSpec} {task : Task} (h : spec.task = .ok task)
    (htype : spec.nodeType = conditionType) :
    ∃ c, task = .condition c ∧ Condition.ofFields spec.id spec.config = .ok c := by
  have hname : NodeType.ofName? conditionType = some .condition := by decide
  rw [NodeSpec.task, htype, hname] at h
  obtain ⟨c, hc, rfl⟩ := map_eq_ok_iff.mp (mapError_eq_ok_iff.mp (mapError_eq_ok_iff.mp h))
  exact ⟨c, rfl, hc⟩

/-- **When a selection is published.** A condition that completes in a run has selected a path, and
it publishes this selection exactly if its variable does not go by the name of a field of the
selection. -/
theorem publishes_iff {w : Workflow} {context : RunContext} {cancellation : Cancellation}
    {before after : History} {id : String} {notes : List Note} {duration : Nat}
    {output : NodeOutput} (h : (w.run context cancellation).history =
      before ++ .executed id conditionType notes ⟨duration, .ok output⟩ :: after) :
    ∃ plan spec c s, Plan.ofWorkflow w = .ok plan ∧ spec ∈ w.nodes ∧ spec.id = id ∧
      Condition.ofFields id spec.config = .ok c ∧
      (Routing.choose (plan.graph.scope id before.outputs context).resolve
        (c.mode.getD w.settings.routing) c.paths).outcome = .ok s ∧
      ((Visit.executed id conditionType notes ⟨duration, .ok output⟩).Publishes s ↔
        ∀ name ∈ c.variableName, name ∉ Selection.fieldNames) := by
  obtain ⟨plan, step, hplan, hstep, hvisit⟩ := exists_step_of_visit h
  have hrealizes := Plan.ofWorkflow_eq_ok_iff.mp hplan
  obtain ⟨rfl, htype, -, hending⟩ := RunRequest.visit_eq_executed hvisit.symm
  obtain ⟨c, htask, hc⟩ := exists_condition_of_task (hrealizes.task_eq step hstep) htype.symm
  have hresult : (RunRequest.ending ⟨plan, context, cancellation⟩ before step).result =
      .ok output := by rw [← hending]
  have hroute := RunRequest.result_of_ending hresult (by simp) (by simp)
  rw [htask] at hroute
  obtain ⟨s, hs, rfl⟩ := exists_selection_of_route hroute
  have hspec := hrealizes.represents.spec_mem (hrealizes.node_mem hstep)
  rw [← hrealizes.settings_eq]
  exact ⟨plan, step.node.spec, c, s, hplan, hspec, rfl, hc, hs, publishes_output_iff⟩

/-! ### A single condition

Its first path is always taken. -/

/-- A condition that has a variable of some name. -/
def singleGateCondition (variableName : String) : Condition :=
  ⟨[⟨"open", "Open", [], .and⟩, ⟨"else", "Else", [], .and⟩], some variableName, none⟩

def singleGate (variableName : String) : Workflow where
  id := Uuid.nil
  name := "single gate"
  nodes :=
    [{ id := "gate", nodeType := conditionType
       config := (singleGateCondition variableName).toFields }]

/-- Whether the visit is that of a condition that completed. -/
def Visit.completesCondition : Visit → Bool
  | .executed _ nodeType _ ⟨_, .ok _⟩ => nodeType == conditionType
  | _ => false

private theorem exists_executed_of_any {h : History} {p : Visit → Bool}
    (hany : h.any (fun v ↦ v.completesCondition && p v) = true) :
    ∃ before id notes duration output after,
      h = before ++ .executed id conditionType notes ⟨duration, .ok output⟩ :: after ∧
      p (.executed id conditionType notes ⟨duration, .ok output⟩) = true := by
  obtain ⟨v, hv, hp⟩ := List.any_eq_true.mp hany
  obtain ⟨before, after, rfl⟩ := List.append_of_mem hv
  obtain ⟨hcompletes, hp⟩ := Bool.and_eq_true_iff.mp hp
  cases v with
  | skipped id => cases hcompletes
  | executed id nodeType notes ending =>
    obtain ⟨duration, result⟩ := ending
    cases result with
    | error e => cases hcompletes
    | ok output =>
      have htype : nodeType = conditionType := beq_iff_eq.mp hcompletes
      subst htype
      exact ⟨before, id, notes, duration, output, after, rfl, hp⟩

/-- Under the name of a field the record of the selection replaces that field, so that no selection
at all is published. -/
theorem not_publishes_singleGate :
    ∃ before id notes duration output after,
      ((singleGate "pathName").run exampleContext .never).history =
        before ++ .executed id conditionType notes ⟨duration, .ok output⟩ :: after ∧
      ∀ s, ¬(Visit.executed id conditionType notes ⟨duration, .ok output⟩).Publishes s := by
  have hany : ((singleGate "pathName").run exampleContext .never).history.any
      (fun v ↦ v.completesCondition && ((v.field? "pathName").bind Value.asText?).isNone) =
        true := by decide +kernel
  obtain ⟨before, id, notes, duration, output, after, hhistory, hnone⟩ :=
    exists_executed_of_any hany
  refine ⟨before, id, notes, duration, output, after, hhistory, fun s hpublishes ↦ ?_⟩
  rw [hpublishes.pathName] at hnone
  cases hnone

/-- Under another name it does not get in the way. -/
theorem publishes_iff_singleGate :
    ∃ v ∈ ((singleGate "route").run exampleContext .never).history, ∃ s, v.Publishes s := by
  have hany : ((singleGate "route").run exampleContext .never).history.any
      (fun v ↦ v.completesCondition && true) = true := by decide +kernel
  obtain ⟨before, id, notes, duration, output, after, hhistory, _⟩ :=
    exists_executed_of_any hany
  obtain ⟨plan, spec, c, s, hplan, hspec, hid, hc, hs, hpublishes⟩ := publishes_iff hhistory
  have hname : c.variableName = some "route" := by
    have hread : Condition.ofFields "gate" (singleGateCondition "route").toFields =
        .ok (singleGateCondition "route") := rfl
    rw [← hid, List.mem_singleton.mp hspec] at hc
    cases hread.symm.trans hc
    rfl
  refine ⟨_, by rw [hhistory]; exact List.mem_append_cons_self, s, hpublishes.mpr ?_⟩
  rw [hname]
  decide

end FlowRouting
