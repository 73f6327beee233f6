import FlowRouting.Proofs.Dict
import FlowRouting.Proofs.Run.Visits
import FlowRouting.Proofs.Scope.Binding
import FlowRouting.Proofs.Scope.Outputs
import FlowRouting.Proofs.Value.Paths

/-!
# Paths in a namespace

A path is followed from the value that its namespace stands for. The run input, the record of a run
and variables given one by one are values, and a path in one of them is taken as a whole. The
outputs of a node are not: the first segment is split off by hand and looked up among them, and only
what is left is taken as a path, into what the field holds.

The two ways of following a path agree as long as something is left. A dot behind the only segment
leaves the empty text, which as a path of its own stays where it is, but as the last segment of a
longer path is a key. So behind a field that holds something a final dot is passed over in the
outputs of a node, and leads on, mostly to nothing, anywhere else.
-/

namespace FlowRouting

/-! ## The outputs of a node -/

/-- A path is the name of a field with a dot behind it, and the field holds something. -/
def PassesOverDot (outputs : Fields) (path : String) : Prop :=
  ∃ field v, '.' ∉ field.toList ∧ path = field ++ "." ∧ outputs.get? field = some v ∧ v ≠ .null

section Outputs

variable {outputs : Fields} {path : String}

private theorem outputAt_of_notMem (hne : path ≠ "") (h : '.' ∉ path.toList) :
    outputAt outputs path = (outputs.get? path).getD .null := by
  rw [outputAt, if_neg (by rwa [String.isEmpty_iff]), Text.splitOnce_eq_none_iff.mpr h]

private theorem outputAt_join {field : String} (h : '.' ∉ field.toList) (rest : String) :
    outputAt outputs (field ++ "." ++ rest) =
      ((outputs.get? field).map (·.getPath rest)).getD .null := by
  rw [outputAt, if_neg (by rw [String.isEmpty_iff]; exact join_ne_empty field rest), toList_join,
    Text.splitOnce_append_cons h]
  simp only [String.ofList_toList]

/-- A path in the outputs of a node is one in the record of them, unless it ends in a dot behind a
field that holds something. -/
theorem outputAt_eq_getPath_iff (hne : path ≠ "") :
    outputAt outputs path = (Value.object outputs).getPath path ↔ ¬PassesOverDot outputs path := by
  by_cases hdot : '.' ∈ path.toList
  · obtain ⟨field, rest, rfl, hfield⟩ := Reference.exists_eq_join_of_mem hdot
    rw [outputAt_join hfield]
    by_cases hrest : rest = ""
    · subst hrest
      rw [Value.getPath_join_empty hfield, String.append_empty]
      show _ = ((outputs.get? field).map fun u ↦ (u.step? "").getD Value.null).getD Value.null ↔ _
      cases hv : outputs.get? field with
      | none =>
        refine iff_of_true rfl ?_
        rintro ⟨field', v, hfield', hpath, hv', -⟩
        rw [String.append_left_inj] at hpath
        rw [← hpath, hv] at hv'
        cases hv'
      | some v =>
        rw [Option.map_some, Option.map_some, Option.getD_some, Option.getD_some,
          Value.getPath_empty, eq_comm, Value.getD_step?_eq_iff]
        constructor
        · rintro rfl ⟨field', v, hfield', hpath, hv', hnull⟩
          rw [String.append_left_inj] at hpath
          rw [← hpath, hv] at hv'
          exact hnull (Option.some.inj hv').symm
        · intro hnot
          by_contra hnull
          exact hnot ⟨field, v, hfield, rfl, hv, hnull⟩
    · rw [Value.getPath_join hfield hrest]
      refine iff_of_true rfl ?_
      rintro ⟨field', v, hfield', hpath, -, -⟩
      -- Both paths have their first dot at the same place, and one of them ends there.
      rw [← String.append_empty (s := field' ++ ".")] at hpath
      have hpieces := pieces_join hfield rest
      rw [hpath, pieces_join hfield'] at hpieces
      obtain ⟨rfl, -⟩ := List.cons.inj hpieces
      exact hrest ((String.append_right_inj _).mp hpath)
  · rw [outputAt_of_notMem hne hdot, Value.getPath_of_notMem hne hdot]
    refine iff_of_true rfl ?_
    rintro ⟨field, v, -, rfl, -, -⟩
    simp at hdot

end Outputs

/-! ## Namespaces -/

namespace Reference

variable {reference : String}

private theorem notMem_scope (reference : String) : '.' ∉ (split reference).scope.toList := by
  rw [split]
  cases hsplit : Text.splitOnce '.' (Text.trim reference.toList) with
  | none =>
    rw [String.toList_ofList]
    exact Text.splitOnce_eq_none_iff.mp hsplit
  | some p =>
    rw [String.toList_ofList]
    exact fun hmem ↦ (Text.eq_append_of_splitOnce hsplit).2 (Text.mem_of_mem_trim hmem)

private theorem trimBlanks_scope (reference : String) :
    (split reference).scope.trimBlanks = (split reference).scope := by
  rw [split]
  cases Text.splitOnce '.' (Text.trim reference.toList) with
  | none => rw [String.trimBlanks, String.toList_ofList, Text.trim_trim]
  | some p => rw [String.trimBlanks, String.toList_ofList, Text.trim_trim]

private theorem split_scope (reference : String) :
    split (split reference).scope = ⟨(split reference).scope, ""⟩ := by
  rw [split_of_notMem (notMem_scope reference), trimBlanks_scope]

end Reference

/-- In the run input and in the record of a run a path is followed from the whole of them. -/
theorem RunContext.reserved_eq_getPath (run : RunContext) {r : Reference}
    (h : r.scope = "input" ∨ r.scope = "run") :
    run.reserved r = (run.reserved ⟨r.scope, ""⟩).getPath r.field := by
  rcases h with h | h
  · rw [reserved, reserved, h]
    rfl
  · rw [reserved, reserved, h]
    rfl

theorem Scope.resolve_of_isReserved {s : Scope} {reference : String}
    (h : Reference.isReserved (Reference.split reference).scope = true) :
    s.resolve reference = .ok (s.run.reserved (Reference.split reference)) := by
  have hne : (Reference.split reference).scope ≠ "" := by
    intro hempty
    rw [hempty] at h
    cases h
  rw [resolve]
  simp only [String.isEmpty_iff, hne, h, if_false, if_true]

private theorem Scope.resolve_of_blank {s : Scope} {reference : String}
    (h : (Reference.split reference).scope = "") :
    s.resolve reference = .error (.unknownVariable reference) := by
  rw [resolve]
  simp only [h]
  rfl

private theorem Variables.ofDict_of_get? {entries : Dict Value} {reference : String} {v : Value}
    (hwhole : entries.get? reference.trimBlanks = none)
    (h : entries.get? (Reference.split reference).scope = some v) :
    Variables.ofDict entries reference = .ok (v.getPath (Reference.split reference).field) := by
  simp only [Variables.ofDict, hwhole, Reference.split_trimBlanks, h]

/-- **A path leads to the same in every namespace, but for a final dot.** In the run input, in the
record of a run and in a variable given by itself, a reference with a path stands for what the path
leads to from what the bare namespace stands for. In the outputs of a node that is so exactly if the
path does not pass over a dot, and otherwise the reference stands for the field before the dot. -/
theorem resolve_path_iff (s : Scope) (entries : Dict Value) {reference scope path : String}
    (hsplit : Reference.split reference = ⟨scope, path⟩) (hpath : path ≠ "") :
    (scope = "input" ∨ scope = "run" →
      ∃ v, s.resolve scope = .ok v ∧ s.resolve reference = .ok (v.getPath path)) ∧
    (∀ id outputs, Reference.isReserved scope = false →
      binding? s.nodes scope = some (.node id) → s.outputs.get? id = some outputs →
      (scope = "" → s.resolve scope = .error (.unknownVariable scope) ∧
        s.resolve reference = .error (.unknownVariable reference)) ∧
      (scope ≠ "" → s.resolve scope = .ok (.object outputs) ∧
        (s.resolve reference = .ok ((Value.object outputs).getPath path) ↔
          ¬PassesOverDot outputs path) ∧
        ∀ field v, '.' ∉ field.toList → path = field ++ "." → outputs.get? field = some v →
          s.resolve reference = .ok v)) ∧
    (∀ v, entries.get? reference.trimBlanks = none → entries.get? scope = some v →
      Variables.ofDict entries scope = .ok v ∧
        Variables.ofDict entries reference = .ok (v.getPath path)) := by
  have hscope : Reference.split scope = ⟨scope, ""⟩ := by
    have h := Reference.split_scope reference
    rwa [hsplit] at h
  refine ⟨fun hname ↦ ?_, fun id outputs hreserved hbound houtputs ↦ ⟨fun hblank ↦ ?_,
    fun hblank ↦ ?_⟩, fun v hwhole hv ↦ ?_⟩
  · have hreserved : Reference.isReserved scope = true := by
      rcases hname with rfl | rfl <;> rfl
    have hat := @Scope.resolve_of_isReserved s reference
    have hbare := @Scope.resolve_of_isReserved s scope
    rw [hsplit] at hat
    rw [hscope] at hbare
    refine ⟨_, hbare hreserved, ?_⟩
    rw [hat hreserved, s.run.reserved_eq_getPath hname]
  · constructor
    · exact Scope.resolve_of_blank (by rw [hscope]; exact hblank)
    · exact Scope.resolve_of_blank (by rw [hsplit]; exact hblank)
  · have hat := @Scope.resolve_of_bound s reference
    have hbare := @Scope.resolve_of_bound s scope
    rw [hsplit] at hat
    rw [hscope] at hbare
    have hfound : s.resolve reference = .ok (outputAt outputs path) := by
      rw [hat hblank hreserved hbound, houtputs]
    refine ⟨?_, ?_, fun field v hfield hdot hv ↦ ?_⟩
    · rw [hbare hblank hreserved hbound, houtputs]
      rfl
    · rw [hfound, Except.ok.injEq, outputAt_eq_getPath_iff hpath]
    · rw [hfound, hdot, outputAt_of_leadsTo ⟨hfield, .inr rfl⟩ hv]
  · have hat := @Variables.ofDict_of_get? entries reference v
    rw [hsplit] at hat
    refine ⟨?_, hat hwhole hv⟩
    have htrimmed := Reference.trimBlanks_scope reference
    rw [hsplit] at htrimmed
    simp only [Variables.ofDict, htrimmed, hv]

/-! ### A form and its reader -/

def filledForm : Workflow where
  id := Uuid.nil
  name := "filled form"
  nodes :=
    [{ id := "form", nodeType := "input", displayName := some "Form" },
      { id := "reader", nodeType := "text", displayName := some "Reader" }]
  edges := [{ source := "form", target := "reader" }]

def formGraph : Graph where
  nodes := nameNodes [] filledForm.nodes
  edges := filledForm.edges

def formOutputs : Fields :=
  [("json", .object [("tags", .array [.text "a", .text "b"])]), ("text", .text "hi")]

def readerScope : Scope :=
  formGraph.scope "reader" [("form", formOutputs)] exampleContext

private theorem build_filledForm : Graph.build filledForm = .ok formGraph := rfl

private theorem binding?_form : binding? readerScope.nodes "Form" = some (.node "form") := by
  decide +kernel

/-- Behind a field the reader finds nothing more, but with a dot in between it finds the field. -/
theorem resolve_ne_getPath_form :
    Graph.build filledForm = .ok formGraph ∧
      Reference.split "Form.text." = ⟨"Form", "text."⟩ ∧
      binding? readerScope.nodes "Form" = some (.node "form") ∧
      readerScope.outputs.get? "form" = some formOutputs ∧
      readerScope.resolve "Form" = .ok (.object formOutputs) ∧
      readerScope.resolve "Form.text." = .ok (.text "hi") ∧
      (Value.object formOutputs).getPath "text." = .null :=
  ⟨build_filledForm, by decide, binding?_form, rfl, rfl, rfl, rfl⟩

/-- Into the form, into the record of the run and into a variable given by itself. -/
theorem resolve_path_form :
    Reference.split "Form.json.tags.1" = ⟨"Form", "json.tags.1"⟩ ∧
      binding? readerScope.nodes "Form" = some (.node "form") ∧
      readerScope.outputs.get? "form" = some formOutputs ∧
      readerScope.resolve "Form.json.tags.1" = .ok (.text "b") ∧
      (Value.object formOutputs).getPath "json.tags.1" = .text "b" ∧
      (∃ v, readerScope.resolve "run" = .ok v ∧
        readerScope.resolve " run . id" = .ok (v.getPath "id")) ∧
      Variables.ofDict [("Form", .object formOutputs)] "Form.text." = .ok .null := by
  have hform := (@resolve_path_iff readerScope [] "Form.json.tags.1" "Form" "json.tags.1"
    (by decide) (by decide)).2.1 "form" formOutputs (by decide) binding?_form rfl
  have hrun := (@resolve_path_iff readerScope [] " run . id" "run" "id" (by decide)
    (by decide)).1 (.inr rfl)
  have hgiven := (@resolve_path_iff readerScope [("Form", .object formOutputs)] "Form.text."
    "Form" "text." (by decide) (by decide)).2.2 (.object formOutputs) rfl rfl
  have hnot : ¬PassesOverDot formOutputs "json.tags.1" := by
    rintro ⟨field, v, hfield, hpath, -, -⟩
    have hlast := congrArg (fun s : String ↦ s.toList.getLast?) hpath
    simp at hlast
  exact ⟨by decide, binding?_form, rfl, (hform.2 (by decide)).2.1.mpr hnot, rfl, hrun, hgiven.2⟩

end FlowRouting
