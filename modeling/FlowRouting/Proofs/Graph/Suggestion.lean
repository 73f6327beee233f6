import FlowRouting.Graph.Suggestion
import FlowRouting.Proofs.Dict
import FlowRouting.Proofs.Run.Visits
import FlowRouting.Proofs.Scope.Binding
import FlowRouting.Proofs.Scope.Outputs
import FlowRouting.Proofs.Validation.Report

/-!
# Which suggestions can be used

An editor suggests the name of an ancestor joined to each of its fields. A name may have dots in it,
and so may a field, for the variable of a condition is a field of any name; but a reference is taken
apart at its first dot. So a suggestion can be used exactly if its first dot is the one that joins,
and no other one cuts the field; a blank around a field is lost as well. If the fields of an
ancestor are not known, its bare name is suggested, and must have no dot.

That a reference finds a field whatever nodes have put out is a statement about all stores, but one
of them decides it: the one in which only the field in question holds the value true.
-/

namespace FlowRouting

/-! ## References to a node -/

/-- A namespace stands for a node among the nodes that are seen. -/
structure StandsFor (nodes : List NamedNode) (scope id : String) : Prop where
  ne_empty : scope ≠ ""
  notReserved : Reference.isReserved scope = false
  bound : binding? nodes scope = some (.node id)

theorem StandsFor.resolve_eq {s : Scope} {reference id : String}
    (h : StandsFor s.nodes (Reference.split reference).scope id) {outputs : Fields}
    (houtputs : s.outputs.get? id = some outputs) :
    s.resolve reference = .ok (outputAt outputs (Reference.split reference).field) := by
  rw [Scope.resolve_of_bound h.ne_empty h.notReserved h.bound, houtputs]

/-- Every node whose output fields are known has put out a value for each of them. -/
def OutputStore.Covers (outputs : OutputStore) (schemas : Schemas) (nodes : List NamedNode) :
    Prop :=
  ∀ n ∈ nodes, ∀ fields, schemas.fieldsFor? n.spec = some fields →
    ∃ o, outputs.get? n.id = some o ∧ ∀ field ∈ fields, ∃ v, o.get? field = some v

/-! ### A marked field

To see which field a reference stands for, all fields get truth values, and only one of them gets
the value true. -/

/-- Truth values in all declared fields of a node, or in one field if they are not known. -/
private def markedOutputs (schemas : Schemas) (id field : String) (n : NamedNode) : Fields :=
  Dict.ofList (((schemas.fieldsFor? n.spec).getD [field]).map fun key ↦
    (key, .bool (n.id == id && key == field)))

/-- What nodes have put out, with a mark in one field of one of them. -/
private def markedStore (schemas : Schemas) (nodes : List NamedNode) (id field : String) :
    OutputStore :=
  Dict.ofList (nodes.map fun n ↦ (n.id, markedOutputs schemas id field n))

/-- A value is the mark of a field, or a record with the mark. -/
private def HasMark (field : String) : Value → Prop
  | .bool b => b = true
  | .object fields => Dict.get? fields field = some (.bool true)
  | _ => False

section Marks

variable {schemas : Schemas} {nodes : List NamedNode} {id field : String}

private theorem get?_markedOutputs (n : NamedNode) (key : String) :
    (markedOutputs schemas id field n).get? key =
      if key ∈ (schemas.fieldsFor? n.spec).getD [field] then
        some (.bool (n.id == id && key == field))
      else none :=
  Dict.get?_extend_map [] _ _ key

private theorem get?_markedStore (hnodup : (nodes.map NamedNode.id).Nodup) {n : NamedNode}
    (hn : n ∈ nodes) :
    (markedStore schemas nodes id field).get? n.id = some (markedOutputs schemas id field n) := by
  refine Dict.get?_ofList_of_mem ?_ (List.mem_map_of_mem (f := fun n ↦ (n.id, _)) hn)
  rwa [List.map_map]

private theorem covers_markedStore (hnodup : (nodes.map NamedNode.id).Nodup) :
    (markedStore schemas nodes id field).Covers schemas nodes := by
  intro n hn fields hfields
  refine ⟨_, get?_markedStore hnodup hn, fun key hkey ↦ ⟨.bool (n.id == id && key == field), ?_⟩⟩
  rw [get?_markedOutputs, hfields, Option.getD_some, if_pos hkey]

private theorem eq_of_get?_markedOutputs {n : NamedNode} {key : String}
    (h : (markedOutputs schemas id field n).get? key = some (.bool true)) :
    n.id = id ∧ key = field := by
  rw [get?_markedOutputs] at h
  split at h
  · simpa using h
  · cases h

private theorem exists_bool_of_get?_markedOutputs {n : NamedNode} {key : String} {v : Value}
    (h : (markedOutputs schemas id field n).get? key = some v) : ∃ b, v = .bool b := by
  rw [get?_markedOutputs] at h
  split at h
  · exact ⟨_, (Option.some.inj h).symm⟩
  · cases h

/-! ### Marks and the run -/

private theorem not_hasMark_null : ¬HasMark field .null :=
  id

private theorem not_hasMark_text (s : String) : ¬HasMark field (.text s) :=
  id

private theorem not_hasMark_identifiers (executionId workflowId : Uuid) (path : String) :
    ¬HasMark field ((Value.object (Dict.ofList [("id", .text executionId.toText),
      ("workflowId", .text workflowId.toText)])).getPath path) := by
  have htexts : ∀ key v, (Dict.ofList [("id", Value.text executionId.toText),
      ("workflowId", .text workflowId.toText)]).get? key = some v → ∃ s, v = .text s := by
    intro key v h
    simp only [Dict.ofList, List.foldl_cons, List.foldl_nil, Dict.get?_insert] at h
    split at h
    · exact ⟨_, (Option.some.inj h).symm⟩
    · split at h
      · exact ⟨_, (Option.some.inj h).symm⟩
      · cases h
  rcases Value.getPath_texts_cases htexts path with h | ⟨s, h⟩ | h
  · rw [h]
    intro hmark
    obtain ⟨s, hs⟩ := htexts field _ hmark
    cases hs
  · rw [h]
    exact not_hasMark_text s
  · rw [h]
    exact not_hasMark_null

private theorem not_hasMark_reserved (r : Reference) :
    ¬HasMark field (exampleContext.reserved r) := by
  rw [RunContext.reserved]
  by_cases hinput : r.scope = "input"
  · have hleaf : (Value.null).getPath r.field = .null := by
      rw [Value.getPath_of_step?_eq_none fun _ ↦ rfl, ite_self]
    rw [if_pos hinput, exampleContext, hleaf]
    exact not_hasMark_null
  rw [if_neg hinput]
  by_cases hnow : r.scope = "now"
  · rw [if_pos hnow]
    split
    · exact not_hasMark_text _
    · split
      · exact not_hasMark_text _
      · split
        · exact id
        · exact not_hasMark_null
  · rw [if_neg hnow]
    exact not_hasMark_identifiers _ _ _

/-- A reference finds the mark only if it is one to the node that has it. -/
private theorem standsFor_of_hasMark (hnodup : (nodes.map NamedNode.id).Nodup) {reference : String}
    {v : Value}
    (h : Scope.resolve ⟨nodes, markedStore schemas nodes id field, exampleContext⟩ reference =
      .ok v) (hv : HasMark field v) :
    StandsFor nodes (Reference.split reference).scope id ∧
      (v = .bool true ∧ LeadsTo (Reference.split reference).field field ∨
        (∃ o, v = .object o) ∧ (Reference.split reference).field = "") := by
  rcases Scope.reserved_or_bound h with rfl | ⟨other, outputs, hempty, hreserved, hbound, ho, rfl⟩
  · exact absurd hv (not_hasMark_reserved _)
  obtain ⟨n, hn, rfl⟩ := exists_goesBy_of_binding? hbound
  rw [get?_markedStore hnodup hn.1] at ho
  cases ho
  have hstands : n.id = id → StandsFor nodes (Reference.split reference).scope id := by
    rintro rfl
    exact ⟨hempty, hreserved, hbound⟩
  -- All fields are truth values, so a path finds all of them, one of them, or nothing.
  rcases outputAt_cases (fun _ _ ↦ exists_bool_of_get?_markedOutputs)
    (Reference.split reference).field with ⟨hpath, heq⟩ | ⟨key, b, hleads, hkey, heq⟩ | heq
  · rw [heq] at hv ⊢
    exact ⟨hstands (eq_of_get?_markedOutputs hv).1, .inr ⟨⟨_, rfl⟩, hpath⟩⟩
  · rw [heq] at hv ⊢
    obtain rfl : b = true := hv
    obtain ⟨hid, rfl⟩ := eq_of_get?_markedOutputs hkey
    exact ⟨hstands hid, .inl ⟨rfl, hleads⟩⟩
  · rw [heq] at hv
    exact absurd hv not_hasMark_null

end Marks

/-! ### References that find what a node has put out -/

section Soundness

variable {schemas : Schemas} {nodes : List NamedNode} {a : NamedNode}

/-- Whatever nodes have put out, a reference finds what a field of a node holds, exactly if its
namespace stands for the node and its path leads to the field. -/
theorem resolves_field_iff (hnodup : (nodes.map NamedNode.id).Nodup) (ha : a ∈ nodes)
    {fields : List String} (hfields : schemas.fieldsFor? a.spec = some fields) {field : String}
    (hfield : field ∈ fields) (reference : String) :
    (∀ (outputs : OutputStore) (run : RunContext), outputs.Covers schemas nodes →
        ∃ o v, outputs.get? a.id = some o ∧ o.get? field = some v ∧
          Scope.resolve ⟨nodes, outputs, run⟩ reference = .ok v) ↔
      StandsFor nodes (Reference.split reference).scope a.id ∧
        LeadsTo (Reference.split reference).field field := by
  constructor
  · intro h
    -- It is enough to look at what is found where only this field is true.
    have hcovers : (markedStore schemas nodes a.id field).Covers schemas nodes :=
      covers_markedStore hnodup
    obtain ⟨o, v, ho, hv, hresolve⟩ := h _ exampleContext hcovers
    rw [get?_markedStore hnodup ha] at ho
    cases ho
    rw [get?_markedOutputs, hfields, Option.getD_some, if_pos hfield] at hv
    have hmark : v = .bool true := by
      cases hv
      simp
    subst hmark
    obtain ⟨hstands, ⟨-, hleads⟩ | ⟨⟨o, ho⟩, -⟩⟩ := standsFor_of_hasMark hnodup hresolve rfl
    · exact ⟨hstands, hleads⟩
    · cases ho
  · rintro ⟨hstands, hleads⟩ outputs run hcovers
    obtain ⟨o, ho, hvalues⟩ := hcovers a ha fields hfields
    obtain ⟨v, hv⟩ := hvalues field hfield
    refine ⟨o, v, ho, hv, ?_⟩
    rw [hstands.resolve_eq ho, outputAt_of_leadsTo hleads hv]

/-- Whatever nodes have put out, a reference finds all that a node has put out whose fields are not
known, exactly if its namespace stands for the node and its path is empty. -/
theorem resolves_object_iff (hnodup : (nodes.map NamedNode.id).Nodup) (ha : a ∈ nodes)
    (hfields : schemas.fieldsFor? a.spec = none) (reference : String) :
    (∀ (outputs : OutputStore) (run : RunContext) (o : Fields), outputs.Covers schemas nodes →
        outputs.get? a.id = some o →
        Scope.resolve ⟨nodes, outputs, run⟩ reference = .ok (.object o)) ↔
      StandsFor nodes (Reference.split reference).scope a.id ∧
        (Reference.split reference).field = "" := by
  constructor
  · intro h
    -- The one field that a node without known fields gets has the empty name.
    have hcovers : (markedStore schemas nodes a.id "").Covers schemas nodes :=
      covers_markedStore hnodup
    have hresolve := h _ exampleContext _ hcovers (get?_markedStore hnodup ha)
    have hmark : HasMark "" (.object (markedOutputs schemas a.id "" a)) := by
      rw [HasMark, get?_markedOutputs, hfields]
      simp
    obtain ⟨hstands, ⟨hbool, -⟩ | ⟨-, hpath⟩⟩ := standsFor_of_hasMark hnodup hresolve hmark
    · cases hbool
    · exact ⟨hstands, hpath⟩
  · rintro ⟨hstands, hpath⟩ outputs run o _ ho
    rw [hstands.resolve_eq ho, hpath]
    rfl

end Soundness

/-! ## Suggestions -/

/-- The display name of a node is a namespace that stands for the node, with a dot behind it. -/
def EndsInDot (nodes : List NamedNode) (a : NamedNode) : Prop :=
  ∃ scope, a.displayName = scope ++ "." ∧ '.' ∉ scope.toList ∧
    StandsFor nodes scope.trimBlanks a.id

section Suggestions

variable {nodes : List NamedNode} {a : NamedNode}

theorem EndsInDot.mem_displayName (h : EndsInDot nodes a) : '.' ∈ a.displayName.toList := by
  obtain ⟨scope, hname, -, -⟩ := h
  rw [hname]
  simp

private theorem isBlank_last_of_eq_join (htrimmed : Text.IsTrimmed a.displayName.toList)
    {scope rest : String} (hname : a.displayName = scope ++ "." ++ rest) :
    ∀ c ∈ rest.toList.getLast?, isBlank c = false := by
  intro c hc
  refine htrimmed.last c ?_
  rw [hname, String.toList_append, Option.mem_def, List.getLast?_append, hc]
  rfl

/-- The field of a node joined to its name is found if there is no dot in the way. -/
theorem standsFor_and_leadsTo_iff (htrimmed : Text.IsTrimmed a.displayName.toList)
    (hstands : StandsFor nodes a.displayName a.id) (field : String) :
    StandsFor nodes (Reference.split (a.displayName ++ "." ++ field)).scope a.id ∧
        LeadsTo (Reference.split (a.displayName ++ "." ++ field)).field field ↔
      '.' ∉ a.displayName.toList ∧ '.' ∉ field.toList ∧ field.trimBlanks = field ∧ field ≠ "" ∨
        EndsInDot nodes a ∧ field = "" := by
  by_cases hdot : '.' ∈ a.displayName.toList
  · constructor
    · rintro ⟨hscope, hleads⟩
      obtain ⟨scope, rest, hname, hscope'⟩ := Reference.exists_eq_join_of_mem hdot
      have hjoin : a.displayName ++ "." ++ field = scope ++ "." ++ (rest ++ "." ++ field) := by
        rw [hname]
        simp [String.append_assoc]
      rw [hjoin, Reference.split_join hscope'] at hscope hleads
      -- The path is the rest of the name with the field behind it.
      obtain ⟨rfl, rfl⟩ := (leadsTo_join_iff (isBlank_last_of_eq_join htrimmed hname)).mp hleads
      exact .inr ⟨⟨scope, by simpa using hname, hscope', hscope⟩, rfl⟩
    · rintro (⟨hnot, -⟩ | ⟨⟨scope, hname, hscope', hscope⟩, rfl⟩)
      · exact absurd hdot hnot
      · have hjoin : a.displayName ++ "." ++ "" = scope ++ "." ++ ("" ++ "." ++ "") := by
          rw [hname]
          simp
        rw [hjoin, Reference.split_join hscope']
        exact ⟨hscope, (leadsTo_join_iff (by simp)).mpr ⟨rfl, rfl⟩⟩
  · rw [Reference.split_join hdot, String.trimBlanks_of_isTrimmed htrimmed, leadsTo_trimBlanks_iff]
    constructor
    · rintro ⟨-, hfield⟩
      exact .inl ⟨hdot, hfield⟩
    · rintro (⟨-, hfield⟩ | ⟨hends, -⟩)
      · exact ⟨hstands, hfield⟩
      · exact absurd hends.mem_displayName hdot

private theorem standsFor_and_empty_iff (htrimmed : Text.IsTrimmed a.displayName.toList)
    (hstands : StandsFor nodes a.displayName a.id) :
    StandsFor nodes (Reference.split a.displayName).scope a.id ∧
        (Reference.split a.displayName).field = "" ↔
      '.' ∉ a.displayName.toList ∨ EndsInDot nodes a := by
  by_cases hdot : '.' ∈ a.displayName.toList
  · rw [or_iff_right (not_not_intro hdot)]
    constructor
    · rintro ⟨hscope, hfield⟩
      obtain ⟨scope, rest, hname, hscope'⟩ := Reference.exists_eq_join_of_mem hdot
      rw [hname, Reference.split_join hscope'] at hscope hfield
      -- A blank rest of a trimmed name is empty.
      have hrest : rest.toList = [] :=
        Text.eq_nil_of_isBlank (Text.isBlank_of_trim_eq_nil (String.ofList_eq_empty_iff.mp hfield))
          (isBlank_last_of_eq_join htrimmed hname)
      rw [String.toList_eq_nil_iff.mp hrest, String.append_empty] at hname
      exact ⟨scope, hname, hscope', hscope⟩
    · rintro ⟨scope, hname, hscope', hscope⟩
      have hjoin : a.displayName = scope ++ "." ++ "" := by
        rw [hname]
        simp
      rw [hjoin, Reference.split_join hscope']
      exact ⟨hscope, rfl⟩
  · rw [Reference.split_of_notMem hdot, String.trimBlanks_of_isTrimmed htrimmed]
    exact iff_of_true ⟨hstands, rfl⟩ (.inl hdot)

end Suggestions

private theorem standsFor_displayName {w : Workflow} {g : Graph} (hg : g.Represents w)
    (hnames : Validation.checkDisplayNames g = .ok ()) {nodeId : String} {a : NamedNode}
    (ha : a ∈ g.ancestors nodeId) : StandsFor (g.ancestors nodeId) a.displayName a.id := by
  obtain ⟨hreserved, hnodup⟩ := Validation.checkDisplayNames_eq_ok_iff.mp hnames
  have hmem := Graph.mem_nodes_of_mem_ancestors ha
  refine ⟨displayName_ne_empty (hg.nodes_perm.mem_iff.mp hmem), hreserved a hmem, ?_⟩
  have hseen := hnodup.sublist ((g.sublist_ancestors nodeId).map NamedNode.displayName)
  exact (goesBy_of_displayName ha rfl).binding?_eq hseen

private theorem mem_availableVariables {g : Graph} {schemas : Schemas} {nodeId : String}
    {a : NamedNode} (ha : a ∈ g.ancestors nodeId) {reference : String}
    (h : reference ∈ a.suggestions schemas) :
    reference ∈ g.availableVariables schemas nodeId :=
  List.mem_append_right _ (List.mem_flatMap.mpr ⟨a, ha, h⟩)

/-- **Which suggestions can be used.** In a graph that passes its checks, let a node be an ancestor
of another one. If the fields of the ancestor are known, then its name joined to a field is among
the suggestions, and it finds what the field holds, whatever the ancestors have put out, exactly if
there is no dot in the name, and the field has neither a dot in it nor a blank around it. If the
fields are not known, then the bare name is among the suggestions, and it finds all that the
ancestor has put out exactly if there is no dot in it. In both cases there is one exception, which
is a name that is the id of the ancestor with a dot behind it. -/
theorem suggestion_resolves_iff {w : Workflow} {g : Graph} (hbuild : Graph.build w = .ok g)
    {schemas : Schemas} {warnings : List Warning} (hvalid : g.validate schemas = .ok warnings)
    {nodeId : String} {a : NamedNode} (ha : a ∈ g.ancestors nodeId) :
    (∀ fields, schemas.fieldsFor? a.spec = some fields → ∀ field ∈ fields,
      a.displayName ++ "." ++ field ∈ g.availableVariables schemas nodeId ∧
        ((∀ (outputs : OutputStore) (run : RunContext),
            outputs.Covers schemas (g.ancestors nodeId) →
            ∃ o v, outputs.get? a.id = some o ∧ o.get? field = some v ∧
              (g.scope nodeId outputs run).resolve (a.displayName ++ "." ++ field) = .ok v) ↔
          '.' ∉ a.displayName.toList ∧ '.' ∉ field.toList ∧ field.trimBlanks = field ∧
              field ≠ "" ∨
            EndsInDot (g.ancestors nodeId) a ∧ field = "")) ∧
      (schemas.fieldsFor? a.spec = none →
        a.displayName ∈ g.availableVariables schemas nodeId ∧
          ((∀ (outputs : OutputStore) (run : RunContext) (o : Fields),
              outputs.Covers schemas (g.ancestors nodeId) → outputs.get? a.id = some o →
              (g.scope nodeId outputs run).resolve a.displayName = .ok (.object o)) ↔
            '.' ∉ a.displayName.toList ∨ EndsInDot (g.ancestors nodeId) a)) := by
  have hg := Graph.represents_of_build hbuild
  obtain ⟨uses, hpasses⟩ := Graph.exists_passes_of_validate hvalid
  have hstands := standsFor_displayName hg hpasses.names ha
  have htrimmed : Text.IsTrimmed a.displayName.toList :=
    isTrimmed_displayName (hg.nodes_perm.mem_iff.mp (Graph.mem_nodes_of_mem_ancestors ha))
  have hnodup : ((g.ancestors nodeId).map NamedNode.id).Nodup :=
    hg.nodup_order.sublist ((g.sublist_ancestors nodeId).map NamedNode.id)
  constructor
  · intro fields hfields field hfield
    refine ⟨mem_availableVariables ha ?_, ?_⟩
    · rw [NamedNode.suggestions, hfields]
      exact List.mem_map_of_mem (f := fun field ↦ a.displayName ++ "." ++ field) hfield
    · rw [← standsFor_and_leadsTo_iff htrimmed hstands field]
      exact resolves_field_iff hnodup ha hfields hfield _
  · intro hfields
    refine ⟨mem_availableVariables ha ?_, ?_⟩
    -- Without known fields the name is all that is suggested.
    · rw [NamedNode.suggestions, hfields]
      exact List.mem_singleton_self _
    · rw [← standsFor_and_empty_iff htrimmed hstands]
      exact resolves_object_iff hnodup ha hfields _

/-! ### A version as a name

Three nodes lead to a reader. One of them has a name with a dot, as versions have. -/

def releaseNotes : Workflow where
  id := Uuid.nil
  name := "release notes"
  nodes :=
    [{ id := "greeting", nodeType := "text", displayName := some "Greeting" },
      { id := "pause", nodeType := "delay", displayName := some " Pause " },
      { id := "release", nodeType := "text", displayName := some "v1.0" },
      { id := "reader", nodeType := "text", displayName := some "Reader" }]
  edges :=
    [{ source := "greeting", target := "reader" }, { source := "pause", target := "reader" },
      { source := "release", target := "reader" }]

def releaseGraph : Graph where
  nodes :=
    ["release", "pause", "greeting", "reader"].filterMap fun id ↦
      (nameNodes [] releaseNotes.nodes).find? (·.id == id)
  edges := releaseNotes.edges

def releaseStore : OutputStore :=
  [("greeting", [("text", .text "hi")]), ("pause", [("seconds", .text "one")]),
    ("release", [("text", .text "out now")])]

private theorem build_releaseNotes : Graph.build releaseNotes = .ok releaseGraph := rfl

private theorem validate_releaseGraph : releaseGraph.validate Schemas.standard = .ok [] :=
  eq_ok_of_toOption (by decide +kernel)

private theorem ancestors_reader :
    releaseGraph.ancestors "reader" = releaseGraph.nodes.take 3 := rfl

private theorem covers_releaseStore :
    releaseStore.Covers Schemas.standard (releaseGraph.ancestors "reader") := by
  rw [ancestors_reader]
  refine List.forall_mem_cons.mpr ⟨?_, List.forall_mem_cons.mpr ⟨?_, List.forall_mem_cons.mpr
    ⟨?_, List.forall_mem_nil _⟩⟩⟩
  · rintro fields ⟨⟩
    exact ⟨[("text", .text "out now")], rfl, by simp [Dict.get?]⟩
  · rintro fields ⟨⟩
  · rintro fields ⟨⟩
    exact ⟨[("text", .text "hi")], rfl, by simp [Dict.get?]⟩

/-- The suggestions for the nodes without a dot in their names can be used. -/
theorem suggestion_resolves_releaseNotes :
    Graph.build releaseNotes = .ok releaseGraph ∧
      releaseGraph.validate Schemas.standard = .ok [] ∧
      "Greeting" ++ "." ++ "text" ∈ releaseGraph.availableVariables Schemas.standard "reader" ∧
      (releaseGraph.scope "reader" releaseStore exampleContext).resolve
          ("Greeting" ++ "." ++ "text") = .ok (.text "hi") ∧
      "Pause" ∈ releaseGraph.availableVariables Schemas.standard "reader" ∧
      (releaseGraph.scope "reader" releaseStore exampleContext).resolve "Pause" =
        .ok (.object [("seconds", .text "one")]) := by
  have hgreeting : ⟨releaseNotes.nodes[0], "Greeting"⟩ ∈ releaseGraph.ancestors "reader" :=
    ancestors_reader ▸ .tail _ (.tail _ (.head _))
  have hpause : ⟨releaseNotes.nodes[1], "Pause"⟩ ∈ releaseGraph.ancestors "reader" :=
    ancestors_reader ▸ .tail _ (.head _)
  obtain ⟨hlisted, hfield⟩ := (suggestion_resolves_iff build_releaseNotes validate_releaseGraph
    hgreeting).1 ["text"] rfl "text" List.mem_cons_self
  obtain ⟨o, v, ho, hv, hfound⟩ := hfield.mpr (.inl (by decide)) releaseStore exampleContext
    covers_releaseStore
  cases ho
  cases hv
  obtain ⟨hlisted', hobject⟩ := (suggestion_resolves_iff build_releaseNotes validate_releaseGraph
    hpause).2 rfl
  have hfound' := hobject.mpr (.inl (by decide)) releaseStore exampleContext _ covers_releaseStore
    rfl
  exact ⟨build_releaseNotes, validate_releaseGraph, hlisted, hfound, hlisted', hfound'⟩

/-- The suggestion for the node with a dot in its name cannot. -/
theorem suggestion_unknown_release :
    Graph.build releaseNotes = .ok releaseGraph ∧
      releaseGraph.validate Schemas.standard = .ok [] ∧
      "v1.0.text" ∈ releaseGraph.availableVariables Schemas.standard "reader" ∧
      releaseStore.Covers Schemas.standard (releaseGraph.ancestors "reader") ∧
      releaseStore.get? "release" = some [("text", .text "out now")] ∧
      (releaseGraph.scope "reader" releaseStore exampleContext).resolve "v1.0.text" =
        .error (.unknownVariable "v1.0.text") :=
  ⟨build_releaseNotes, validate_releaseGraph, by decide +kernel, covers_releaseStore, rfl, rfl⟩

end FlowRouting
