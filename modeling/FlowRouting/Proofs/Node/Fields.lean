import FlowRouting.Proofs.Condition.Layout
import FlowRouting.Proofs.Json.Records
import FlowRouting.Proofs.Run.Trace
import FlowRouting.Schema

/-!
# The output fields of a node

Schemas say by the type and the configuration of a node which fields it will put out; what it does
put out is decided by its task. The two are compared through the fields of the task: making a task
of a node leaves what its schema says, and executing a task leads to these fields in any context.

A condition is the type where the configuration is read twice. Its task decodes the whole of it as a
record, the schema looks at one entry, and both find the same name of a variable.
-/

namespace FlowRouting

/-- The fields that a task puts out when it succeeds. Those of a task that passes its inputs on are
not known before. -/
def Task.outputFields? : Task → Option (List String)
  | .condition c =>
    some (Selection.fieldNames ++ (c.variableName.filter fun name ↦ !name.isEmpty).toList)
  | .debugLog _ => some ["message"]
  | .input subtype _ _ => some [subtype]
  | .output _ => some ["output"]
  | .text _ => some ["text"]
  | .delay _ => none
  | .jsonParse _ => some ["parsed"]
  | .jsonStringify _ => some ["json"]

/-! ## Executing a task -/

private theorem Selection.mem_keys_toOutputs_iff (s : Selection) {variableName : Option String}
    {key : String} :
    key ∈ (s.toOutputs variableName).keys ↔
      key ∈ fieldNames ++ (variableName.filter fun name ↦ !name.isEmpty).toList := by
  have hrecord : s.record.keys = fieldNames := by
    have hkeys : fieldNames.Pairwise (· < ·) := by decide
    rw [record, Dict.Sorted.ofList_eq (.of_sublist_keys hkeys (.refl _))]
    rfl
  cases variableName with
  | none => rw [toOutputs, hrecord, Option.filter_none, Option.toList_none, List.append_nil]
  | some name =>
    rw [toOutputs]
    by_cases hname : name.isEmpty = true
    · rw [if_pos hname, hrecord, Option.filter_some_neg (by simpa using hname), Option.toList_none,
        List.append_nil]
    · rw [if_neg hname, Dict.mem_keys_insert, hrecord,
        Option.filter_some_pos (by simpa using hname), Option.toList_some, List.mem_append,
        List.mem_singleton, or_comm]

private theorem keys_of_asOutput {field : String} {result : Except NodeError Value}
    {output : NodeOutput} (h : asOutput field result = .ok output) :
    output.outputs.keys = [field] := by
  obtain ⟨v, _, rfl⟩ := map_eq_ok_iff.mp h
  rfl

/-- A task that succeeds puts out its fields and no others. -/
theorem Task.mem_keys_iff {task : Task} {ctx : NodeContext} {output : NodeOutput}
    (h : (task.execute ctx).result = .ok output) {fields : List String}
    (hfields : task.outputFields? = some fields) {key : String} :
    key ∈ output.outputs.keys ↔ key ∈ fields := by
  -- All tasks but the first one put out a single field.
  have hsingle (field : String) (hkeys : output.outputs.keys = [field])
      (hfield : task.outputFields? = some [field]) : key ∈ output.outputs.keys ↔ key ∈ fields := by
    rw [hfield] at hfields
    cases hfields
    rw [hkeys]
  cases task with
  | condition c =>
    obtain ⟨s, _, rfl⟩ := exists_selection_of_route h
    cases hfields
    exact s.mem_keys_toOutputs_iff
  | debugLog message =>
    rw [execute, NodeContext.debugLog] at h
    split at h <;> cases h
    exact hsingle "message" rfl rfl
  | output value =>
    rw [execute, NodeContext.publish] at h
    split at h <;> cases h
    exact hsingle "output" rfl rfl
  | delay ms => cases hfields
  | input subtype => exact hsingle subtype (keys_of_asOutput h) rfl
  | text => exact hsingle "text" (keys_of_asOutput h) rfl
  | jsonParse => exact hsingle "parsed" (keys_of_asOutput h) rfl
  | jsonStringify => exact hsingle "json" (keys_of_asOutput h) rfl

/-! ## Making a task -/

namespace Condition

private theorem sets_variableName :
    shape.Sets .tree "variableName" Condition.variableName fun j ↦
      match j with
      | .string s => some s
      | _ => none := by
  refine ⟨⟨_, .tail _ (.head _), rfl⟩, ?_⟩
  refine List.forall_mem_cons.mpr ⟨?_, List.forall_mem_cons.mpr ⟨?_,
    List.forall_mem_singleton.mpr ?_⟩⟩
  · intro j a b hput
    obtain ⟨paths, _, rfl⟩ := map_eq_ok_iff.mp hput
    rfl
  · intro j a b hput
    obtain ⟨variableName, hread, rfl⟩ := map_eq_ok_iff.mp hput
    cases j <;> cases hread <;> rfl
  · intro j a b hput
    obtain ⟨mode, _, rfl⟩ := map_eq_ok_iff.mp hput
    rfl

private theorem variableName_of_ofFields {nodeId : String} {config : Fields} {c : Condition}
    (hsorted : config.Sorted) (h : ofFields nodeId config = .ok c) :
    c.variableName = (config.get? "variableName").bind Value.asText? := by
  rw [sets_variableName.of_decode_tree hsorted (decode_of_ofFields h).1]
  cases config.get? "variableName" with
  | none => rfl
  | some v =>
    cases v with
    | number x =>
      simp only [Option.elim_some, Value.toJson, Number.toJson]
      cases x.smallInt? with
      | some n => rfl
      | none => cases x <;> rfl
    | _ => rfl

end Condition

/-- The schema of a type that can run: the declared fields, but for an input, of which one is there
and depends on the subtype. -/
private def NodeType.schema : NodeType → OutputSchema
  | .input =>
    .bySubtype "inputType" (Dict.ofList (inputSubtypes.map fun subtype ↦ (subtype, [subtype])))
      "text"
  | t => Schemas.declared t

private theorem Schemas.get?_standard (t : NodeType) : standard.get? t.name = some t.schema := by
  cases t <;> rfl

private theorem NodeSpec.name_nodeType_of_task {spec : NodeSpec} {task : Task}
    (h : spec.task = .ok task) : task.nodeType.name = spec.nodeType := by
  rw [NodeSpec.task] at h
  split at h
  · cases h
  · next t ht =>
    rw [NodeSpec.nodeType_of_taskAs (mapError_eq_ok_iff.mp h), NodeType.name_of_ofName? ht]

private theorem NodeSpec.inputType_of_task {spec : NodeSpec} {subtype key : String}
    {default : Value} (h : spec.task = .ok (.input subtype key default)) :
    (spec.configText? "inputType").getD "text" = subtype ∧ subtype ∈ inputSubtypes := by
  obtain ⟨t, htask, _⟩ := NodeSpec.exists_taskAs h
  have htype : NodeType.input = t := NodeSpec.nodeType_of_taskAs htask
  subst htype
  rw [taskAs, inputTask] at htask
  split at htask
  · next hknown =>
    cases htask
    exact ⟨rfl, List.contains_iff_mem.mp hknown⟩
  · cases htask

private theorem Schemas.fieldsFor?_of_get? {schemas : Schemas} {spec : NodeSpec}
    {schema : OutputSchema} (h : schemas.get? spec.nodeType = some schema) :
    schemas.fieldsFor? spec =
      (schema.fieldsFor? spec).map fun fields ↦
        if spec.isCondition then
          fields ++ ((spec.configText? "variableName").filter fun name ↦ !name.isEmpty).toList
        else fields := by
  rw [fieldsFor?, h]
  cases hfields : schema.fieldsFor? spec with
  | none => simp [hfields]
  | some fields => cases spec.isCondition <;> simp [hfields]

/-- Where the fields of a node are known, they are those of its task. -/
theorem NodeSpec.fieldsFor?_standard {spec : NodeSpec} {task : Task} (hsorted : spec.config.Sorted)
    (h : spec.task = .ok task) :
    Schemas.standard.fieldsFor? spec = task.outputFields? := by
  have hschema := Schemas.get?_standard task.nodeType
  rw [NodeSpec.name_nodeType_of_task h] at hschema
  have hcondition := NodeSpec.isCondition_iff_of_task h
  rw [Schemas.fieldsFor?_of_get? hschema]
  have hplain (htype : task.nodeType ≠ .condition) : spec.isCondition = false :=
    Bool.eq_false_iff.mpr fun htrue ↦ htype (hcondition.mp htrue)
  cases task with
  | condition c =>
    have hvariable := Condition.variableName_of_ofFields hsorted (NodeSpec.ofFields_of_task h).2
    simp only [hcondition.mpr rfl, if_true]
    rw [Task.outputFields?, hvariable]
    rfl
  | input subtype key default =>
    obtain ⟨hsubtype, hmem⟩ := NodeSpec.inputType_of_task h
    have hvariant := Dict.get?_extend_map [] inputSubtypes (fun subtype ↦ [subtype]) subtype
    rw [if_pos hmem] at hvariant
    rw [hplain (by rintro ⟨⟩), Task.nodeType, NodeType.schema, OutputSchema.fieldsFor?, hsubtype,
      Dict.ofList, ← Dict.extend, hvariant]
    rfl
  | debugLog | output | text | delay | jsonParse | jsonStringify =>
    rw [hplain (by rintro ⟨⟩)]
    rfl

end FlowRouting
