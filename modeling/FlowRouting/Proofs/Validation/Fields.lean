import FlowRouting.Proofs.Node.Fields
import FlowRouting.Proofs.Scope.Outputs
import FlowRouting.Proofs.Validation.Report

/-!
# Warnings about output fields

The checks warn of a reference to a field that its node does not put out, by the schema of the node.
As schemas describe what nodes put out, such a reference finds nothing once the node has run. This
holds of a reference that a run takes for one to the node at all: the node has to be above the one
that refers to it, and the namespace may not be empty. Of other references the warning is raised as
well, but they are unknown: a run does not get as far as to look for a field.
-/

namespace FlowRouting

open Validation

/-! ## Which warnings are about fields -/

namespace Validation

variable {g : Graph}

private theorem eq_alwaysMatches_of_mem_warnings {n : NamedNode} {f : Findings}
    (h : checkNode g n = .ok f) {warning : Warning} (hwarning : warning ∈ f.warnings) :
    ∃ pathId, warning = .alwaysMatches pathId n.id := by
  cases hcondition : n.spec.isCondition with
  | true =>
    obtain ⟨_, findings, _, _, hfindings, rfl⟩ := exists_of_checkNode h hcondition
    obtain ⟨found, hfound, hwarning⟩ := List.mem_flatMap.mp hwarning
    obtain ⟨p, _, hpath⟩ := exists_of_mem_mapM hfindings hfound
    cases eq_of_checkPath hpath
    dsimp only at hwarning
    split at hwarning
    · exact ⟨p.id, List.mem_singleton.mp hwarning⟩
    · cases hwarning
  | false =>
    cases eq_of_checkNode h hcondition
    cases hwarning

variable {schemas : Schemas} {warnings : List Warning} {nodeId reference scope field : String}

/-- A reference is warned of for its field: it is one to a node under this namespace, and the first
segment of its path is not among the fields by the schema of the node. -/
private structure WarnsOfField (g : Graph) (schemas : Schemas) (reference scope field : String)
    (n : NamedNode) : Prop where
  target?_eq : target? g scope = some n
  scope_eq : scope = (Reference.split reference).scope
  field_eq : field = ((Reference.split reference).field.pieces '.').headD ""
  field_ne : field ≠ ""
  isReserved_eq : Reference.isReserved scope = false
  unknown : ∃ fields, schemas.fieldsFor? n.spec = some fields ∧ field ∉ fields

private theorem exists_warnsOfField_of_mem_warnings {use : Use}
    (h : .unknownField nodeId reference scope field ∈ use.warnings g schemas) :
    ∃ n, WarnsOfField g schemas reference scope field n := by
  rw [Use.warnings] at h
  cases hreserved : Reference.isReserved (Reference.split use.reference).scope with
  | true =>
    simp only [hreserved, if_true] at h
    cases h
  | false =>
    simp only [hreserved, Bool.false_eq_true, if_false] at h
    cases htarget : target? g (Reference.split use.reference).scope with
    | none =>
      rw [htarget] at h
      cases List.mem_singleton.mp h
    | some n =>
      simp only [htarget] at h
      rcases List.mem_append.mp h with h | h
      · cases hfields : schemas.fieldsFor? n.spec with
        | none =>
          simp only [hfields, if_true] at h
          cases h
        | some fields =>
          simp only [hfields] at h
          split at h
          · cases h
          · next hunknown =>
            cases List.mem_singleton.mp h
            rw [Bool.or_eq_true, not_or, String.isEmpty_iff, List.contains_iff_mem] at hunknown
            exact ⟨n, htarget, rfl, rfl, hunknown.1, hreserved, fields, hfields, hunknown.2⟩
      · split at h
        · cases h
        · cases List.mem_singleton.mp h

private theorem exists_warnsOfField (h : g.validate schemas = .ok warnings)
    (hwarning : .unknownField nodeId reference scope field ∈ warnings) :
    ∃ n, WarnsOfField g schemas reference scope field n := by
  obtain ⟨_, findings, hfindings, _, rfl⟩ := Graph.validate_eq_ok_iff.mp h
  rcases List.mem_append.mp hwarning with hwarning | hwarning
  · obtain ⟨f, hf, hwarning⟩ := List.mem_flatMap.mp hwarning
    obtain ⟨n, _, hcheck⟩ := exists_of_mem_mapM hfindings hf
    obtain ⟨pathId, heq⟩ := eq_alwaysMatches_of_mem_warnings hcheck hwarning
    cases heq
  · obtain ⟨use, _, hwarning⟩ := List.mem_flatMap.mp hwarning
    exact exists_warnsOfField_of_mem_warnings hwarning

/-- Where a run takes a reference for one to the node, it finds null instead of an unknown field. -/
private theorem WarnsOfField.resolve_eq {n : NamedNode}
    (h : WarnsOfField g schemas reference scope field n) (hnames : checkDisplayNames g = .ok ())
    (hne : scope ≠ "") (habove : n ∈ g.ancestors nodeId) {store : OutputStore} {outputs : Fields}
    (hstore : store.get? n.id = some outputs) (hkey : field ∉ outputs.keys) (run : RunContext) :
    (g.scope nodeId store run).resolve reference = .ok .null := by
  obtain ⟨htarget, rfl, rfl, hfield, hreserved, _⟩ := h
  obtain ⟨_, hgoes⟩ := goesBy_of_target? htarget
  -- Nothing but the node goes by the namespace among the ancestors either.
  have habove' : GoesBy (g.ancestors nodeId) (Reference.split reference).scope n :=
    ⟨habove, hgoes.imp_right fun hid ↦
      ⟨hid.1, fun m hm ↦ hid.2 m (Graph.mem_nodes_of_mem_ancestors hm)⟩⟩
  have hnodup := (checkDisplayNames_eq_ok_iff.mp hnames).2.sublist
    ((g.sublist_ancestors nodeId).map NamedNode.displayName)
  rw [Scope.resolve_of_bound (s := g.scope nodeId store run) hne hreserved
    (habove'.binding?_eq hnodup)]
  have houtputs : (g.scope nodeId store run).outputs.get? n.id = some outputs := hstore
  rw [houtputs]
  exact congrArg Except.ok (outputAt_eq_null hfield hkey)

/-- Where a run takes it for no reference to the node, it is unknown, unless there is a node above
whose id is the namespace. -/
private theorem WarnsOfField.exists_unknown {n : NamedNode} {w : Workflow}
    (h : WarnsOfField g schemas reference scope field n) (hg : g.Represents w)
    (hnames : checkDisplayNames g = .ok ())
    (hbeside : scope = "" ∨
      n ∉ g.ancestors nodeId ∧ ∀ m ∈ g.ancestors nodeId, m.id ≠ scope)
    (store : OutputStore) (run : RunContext) :
    ∃ x, (g.scope nodeId store run).resolve reference = .error (.unknownVariable x) := by
  obtain ⟨htarget, rfl, _, _, hreserved, _⟩ := h
  refine Scope.unknown_iff.mpr (hbeside.imp_right fun ⟨habove, hids⟩ ↦ ⟨hreserved, fun m hm ↦ ?_⟩)
  -- A node with that display name would be the one that the checks have found.
  refine ⟨fun hname ↦ habove ?_, hids m hm⟩
  have hgoes := goesBy_of_displayName (Graph.mem_nodes_of_mem_ancestors hm) hname
  rwa [hg.eq_of_goesBy (checkDisplayNames_eq_ok_iff.mp hnames).2 (goesBy_of_target? htarget) hgoes]

end Validation

/-- **Declared schemas describe what nodes put out.** Where the schema of a node knows its fields,
the node puts out these and no others whenever it succeeds, and it takes a path exactly if it is a
condition. So of a reference to a node above, under a namespace that is not empty, a warning about
its field is raised only if the reference finds null once the node has run. Of any other reference
it is raised only if that is unknown, unless there is a node above whose id is the namespace. -/
theorem schemas_describe_outputs :
    (∀ (spec : NodeSpec) (task : Task) (ctx : NodeContext) (output : NodeOutput),
      spec.config.Sorted → spec.task = .ok task → (task.execute ctx).result = .ok output →
        (∀ fields, Schemas.standard.fieldsFor? spec = some fields →
          ∀ key, key ∈ output.outputs.keys ↔ key ∈ fields) ∧
        (output.branch.isSome = true ↔ spec.isCondition = true)) ∧
    ∀ (w : Workflow) (g : Graph) (warnings : List Warning), Graph.build w = .ok g →
      g.validate Schemas.standard = .ok warnings → (∀ spec ∈ w.nodes, spec.config.Sorted) →
      ∀ nodeId reference scope field, .unknownField nodeId reference scope field ∈ warnings →
        ∃ n ∈ g.nodes, target? g scope = some n ∧
          (scope ≠ "" → n ∈ g.ancestors nodeId →
            ∀ (task : Task) (ctx : NodeContext) (output : NodeOutput),
              n.spec.task = .ok task → (task.execute ctx).result = .ok output →
              ∀ (store : OutputStore) (run : RunContext), store.get? n.id = some output.outputs →
                (g.scope nodeId store run).resolve reference = .ok .null) ∧
          (scope = "" ∨ n ∉ g.ancestors nodeId ∧ (∀ m ∈ g.ancestors nodeId, m.id ≠ scope) →
            ∀ (store : OutputStore) (run : RunContext),
              ∃ x, (g.scope nodeId store run).resolve reference = .error (.unknownVariable x)) := by
  have hdescribe : ∀ (spec : NodeSpec) (task : Task) (ctx : NodeContext) (output : NodeOutput),
      spec.config.Sorted → spec.task = .ok task → (task.execute ctx).result = .ok output →
        ∀ fields, Schemas.standard.fieldsFor? spec = some fields →
          ∀ key, key ∈ output.outputs.keys ↔ key ∈ fields := by
    intro spec task ctx output hsorted htask hresult fields hfields key
    rw [NodeSpec.fieldsFor?_standard hsorted htask] at hfields
    exact Task.mem_keys_iff hresult hfields
  constructor
  · intro spec task ctx output hsorted htask hresult
    refine ⟨hdescribe spec task ctx output hsorted htask hresult, ?_⟩
    rw [Task.isSome_branch_iff hresult, NodeSpec.isCondition_iff_of_task htask]
  · intro w g warnings hbuild hvalid hsorted nodeId reference scope field hwarning
    have hg := Graph.represents_of_build hbuild
    obtain ⟨uses, hpasses⟩ := Graph.exists_passes_of_validate hvalid
    obtain ⟨n, hn⟩ := exists_warnsOfField hvalid hwarning
    have hmem := (goesBy_of_target? hn.target?_eq).1
    refine ⟨n, hmem, hn.target?_eq, fun hne habove ↦ ?_, hn.exists_unknown hg hpasses.names⟩
    intro task ctx output htask hresult store run hstore
    obtain ⟨fields, hfields, hunknown⟩ := hn.unknown
    have hkeys := hdescribe n.spec task ctx output (hsorted n.spec (hg.spec_mem hmem)) htask hresult
      fields hfields field
    exact hn.resolve_eq hpasses.names hne habove hstore (hkeys.not.mpr hunknown) run

/-! ### Three readers of a field that is not put out

Of two texts, one of them under an empty id, none has a title. One reader of a title is below the
first text, one is not, and one is below the text whose namespace is empty. -/

def textNode (id template : String) : NodeSpec where
  id
  nodeType := "text"
  config := [("template", .text template)]

def titleReaders : Workflow where
  id := Uuid.nil
  name := "title readers"
  nodes :=
    [textNode "stray" "{{greeting.title}}", textNode "blank" "{{.title}}",
      textNode "reader" "{{greeting.title}}", textNode "greeting" "hi", textNode "" "ho"]
  edges := [{ source := "greeting", target := "reader" }, { source := "", target := "blank" }]

def titleReadersGraph : Graph where
  nodes :=
    ["", "greeting", "reader", "blank", "stray"].filterMap fun id ↦
      (nameNodes [] titleReaders.nodes).find? (·.id == id)
  edges := titleReaders.edges

def titleWarnings : List Warning :=
  [.unknownField "reader" "greeting.title" "greeting" "title",
    .unknownField "blank" ".title" "" "title",
    .unknownField "stray" "greeting.title" "greeting" "title", .notAbove "stray" "greeting"]

def titleStore : OutputStore :=
  [("", [("text", .text "ho")]), ("greeting", [("text", .text "hi")])]

private theorem build_titleReaders : Graph.build titleReaders = .ok titleReadersGraph := rfl

private theorem validate_titleReadersGraph :
    titleReadersGraph.validate Schemas.standard = .ok titleWarnings :=
  eq_ok_of_toOption (by decide +kernel)

/-- A context in which nothing is known. -/
def bareContext : NodeContext where
  displayName := "node"
  inputs := []
  bindings := fun reference ↦ .error (.unknownVariable reference)
  routing := .strict

private theorem execute_greeting :
    (textNode "greeting" "hi").task = .ok (.text "hi") ∧
      ((Task.text "hi").execute bareContext).result = .ok (.single "text" (.text "hi")) :=
  ⟨rfl, rfl⟩

/-- A condition puts out the record of its selection under the name of its variable as well. The
reader below the text finds null in place of the title, and to the stray one the text is unknown. -/
theorem schemas_describe_titleReaders :
    (∃ output, ((Task.condition (singleGateCondition "route")).execute bareContext).result =
        .ok output ∧
      (∀ key, key ∈ output.outputs.keys ↔ key ∈ ["matched", "pathId", "pathName", "route"]) ∧
      output.branch.isSome = true) ∧
    (.unknownField "reader" "greeting.title" "greeting" "title" ∈ titleWarnings ∧
      (titleReadersGraph.scope "reader" titleStore exampleContext).resolve "greeting.title" =
        .ok .null) ∧
    .unknownField "stray" "greeting.title" "greeting" "title" ∈ titleWarnings ∧
      ∃ x, (titleReadersGraph.scope "stray" titleStore exampleContext).resolve "greeting.title" =
        .error (.unknownVariable x) := by
  obtain ⟨hdescribe, hwarned⟩ := schemas_describe_outputs
  have hsorted : ∀ spec ∈ titleReaders.nodes, spec.config.Sorted := by
    simp [titleReaders, textNode, Dict.Sorted]
  have hwarned := hwarned titleReaders titleReadersGraph titleWarnings build_titleReaders
    validate_titleReadersGraph hsorted
  refine ⟨?_, ⟨by decide, ?_⟩, by decide, ?_⟩
  · have hgate := hdescribe ((singleGate "route").nodes[0])
      (.condition (singleGateCondition "route")) bareContext _ (Dict.sorted_ofList _) rfl rfl
    exact ⟨_, rfl, hgate.1 _ rfl, hgate.2.mpr rfl⟩
  · obtain ⟨n, _, htarget, hnull, _⟩ :=
      hwarned "reader" "greeting.title" "greeting" "title" (by decide)
    have hgreeting : target? titleReadersGraph "greeting" =
        some ⟨textNode "greeting" "hi", "text_3"⟩ := rfl
    cases hgreeting.symm.trans htarget
    exact hnull (by decide) (.head _) _ bareContext _ execute_greeting.1 execute_greeting.2
      titleStore exampleContext rfl
  · obtain ⟨n, _, _, _, hunknown⟩ :=
      hwarned "stray" "greeting.title" "greeting" "title" (by decide)
    have hnone : titleReadersGraph.ancestors "stray" = [] := rfl
    refine hunknown (.inr ?_) titleStore exampleContext
    rw [hnone]
    exact ⟨List.not_mem_nil, List.forall_mem_nil _⟩

/-- The same warning is raised of the other two readers, and what they refer to is unknown although
both texts have run. -/
theorem unknownField_of_unknownVariable :
    Graph.build titleReaders = .ok titleReadersGraph ∧
      titleReadersGraph.validate Schemas.standard = .ok titleWarnings ∧
      (textNode "greeting" "hi").task = .ok (.text "hi") ∧
      ((Task.text "hi").execute bareContext).result = .ok (.single "text" (.text "hi")) ∧
      titleStore.get? "greeting" = some (NodeOutput.single "text" (.text "hi")).outputs ∧
      .unknownField "stray" "greeting.title" "greeting" "title" ∈ titleWarnings ∧
      (titleReadersGraph.scope "stray" titleStore exampleContext).resolve "greeting.title" =
        .error (.unknownVariable "greeting.title") ∧
      .unknownField "blank" ".title" "" "title" ∈ titleWarnings ∧
      (titleReadersGraph.scope "blank" titleStore exampleContext).resolve ".title" =
        .error (.unknownVariable ".title") :=
  ⟨build_titleReaders, validate_titleReadersGraph, execute_greeting.1, execute_greeting.2, rfl,
    by decide, rfl, by decide, rfl⟩

end FlowRouting
