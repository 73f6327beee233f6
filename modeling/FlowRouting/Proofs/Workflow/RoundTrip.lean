import FlowRouting.Proofs.Condition.RoundTrip
import FlowRouting.Proofs.Uuid
import FlowRouting.Workflow.Json

/-!
# Workflows as texts

A workflow is read back from the text that is written of it: every part of it is written under the
key under which it is looked for, and what is left out has the value that is assumed for it. Only
what nodes are configured with is restricted, as values are: to small integers and to the levels
that a text may nest, of which the workflow, its list of nodes and the node take three.

What was read from any text is within the levels again, for its configurations were read from deeper
places than they are written to.
-/

namespace FlowRouting

open Json

private theorem optionalMember_eq (key : String) (o : Option String) :
    optionalMember key o = o.toList.map fun s ↦ (key, .string s) := by
  cases o <;> rfl

private theorem isPlain_of_mem_optional {key : String} {o : Option String} {m : String × Json}
    (h : m ∈ o.toList.map fun s ↦ (key, .string s)) : m.2.IsPlain := by
  obtain ⟨s, -, rfl⟩ := List.mem_map.mp h
  exact .string s

/-! ## Configurations -/

/-- The configuration of a node is made of dictionaries, and all its numbers are small integers. -/
private structure NodeSpec.IsPlain (spec : NodeSpec) : Prop where
  isOrdered : (Value.object spec.config).IsOrdered
  isIntegral : (Value.object spec.config).IsIntegral

/-- The number of levels that the configuration of a node nests. -/
private def NodeSpec.depth (spec : NodeSpec) : Nat :=
  (Value.object spec.config).toJson.depth

private theorem Decoder.fields_toJson {config : Fields} (hordered : (Value.object config).IsOrdered)
    (hintegral : (Value.object config).IsIntegral) {n : Nat}
    (hdepth : (Value.object config).toJson.depth ≤ n) :
    Decoder.fields (.text n) (Value.object config).toJson = .ok config := by
  have hread := Value.ofJson_toJson hordered hintegral hdepth
  rw [Value.toJson] at hread ⊢
  rw [Decoder.fields, Source.levels?, hread]
  rfl

/-- A configuration that was read is made of dictionaries, and nests no deeper than reading goes. -/
theorem Decoder.isOrdered_and_depth_le_of_fields {n : Nat} {j : Json} {config : Fields}
    (h : Decoder.fields (.text n) j = .ok config) :
    (Value.object config).IsOrdered ∧ (Value.object config).toJson.depth ≤ n := by
  cases j with
  | object members =>
    rw [Decoder.fields, Source.levels?] at h
    cases hread : Value.ofJson (some n) (.object members) with
    | error fault =>
      rw [hread] at h
      cases h
    | ok v =>
      obtain ⟨_, fields, _, rfl, -, -⟩ := Value.exists_of_ofJson_object hread
      rw [hread] at h
      cases h
      exact ⟨Value.isOrdered_of_ofJson hread, Value.depth_le_of_ofJson hread⟩
  | _ => cases h

/-! ## Nodes -/

namespace NodeSpec

private theorem hasDistinctKeys_shape : NodeSpec.shape.HasDistinctKeys := by
  show List.Nodup _
  decide +kernel

private theorem decode_toJson {spec : NodeSpec} (h : spec.IsPlain) {n : Nat}
    (hdepth : spec.depth ≤ n) : NodeSpec.shape.decode (.text (n + 1)) spec.toJson = .ok spec := by
  have hconfig := Decoder.fields_toJson h.isOrdered h.isIntegral hdepth
  rw [toJson, optionalMember_eq]
  obtain ⟨id, nodeType, displayName, config⟩ := spec
  refine Shape.Puts.decode_text_eq ?_ hasDistinctKeys_shape ?_ ?_
  · -- The members are written in the order of the fields.
    refine .cons 0 rfl rfl trivial (Field.put_required_eq_ok rfl _) ?_
    refine .cons 1 rfl rfl trivial (Field.put_required_eq_ok rfl _) ?_
    refine .append (.optional (fun s ↦ s) displayName 2 rfl (fun _ ↦ rfl) rfl rfl) ?_
    exact .cons 3 rfl rfl trivial (Field.put_withDefault_eq_ok hconfig _) .nil
  · cases displayName <;> simp
  · simp [Shape.Covers, shape, Field.required, Field.withDefault]

private theorem IsPlain.isPlain_toJson {spec : NodeSpec} (h : spec.IsPlain) :
    spec.toJson.IsPlain := by
  refine .object ?_
  rw [optionalMember_eq]
  simp only [List.forall_mem_append, List.forall_mem_cons]
  exact ⟨⟨⟨.string _, .string _, List.forall_mem_nil _⟩, fun _ h ↦ isPlain_of_mem_optional h⟩,
    h.isIntegral.isPlain_toJson, List.forall_mem_nil _⟩

private theorem isOrdered_and_depth_le_of_decode {n : Nat} (hpos : 0 < n) {j : Json}
    {spec : NodeSpec} (h : NodeSpec.shape.decode (.text (n + 1)) j = .ok spec) :
    (Value.object spec.config).IsOrdered ∧ spec.depth ≤ n := by
  refine Shape.Keeps.of_decode
    (p := fun spec : NodeSpec ↦ (Value.object spec.config).IsOrdered ∧ spec.depth ≤ n) ?_ ?_ h
  · refine ⟨Value.isOrdered_object_nil, ?_⟩
    exact hpos
  · rintro inner ⟨⟩
    simp only [Shape.Keeps, shape, List.forall_mem_cons]
    refine ⟨?_, ?_, ?_, ?_, List.forall_mem_nil _⟩
    all_goals
      intro j a b ha hput
      obtain ⟨x, hx, rfl⟩ := map_eq_ok_iff.mp hput
    -- Only the last field changes the configuration.
    · exact ha
    · exact ha
    · exact ha
    · exact Decoder.isOrdered_and_depth_le_of_fields hx

end NodeSpec

/-! ## Edges and settings -/

private theorem Edge.hasDistinctKeys_shape : Edge.shape.HasDistinctKeys := by
  show List.Nodup _
  decide +kernel

private theorem Edge.decode_toJson (n : Nat) (e : Edge) :
    Edge.shape.decode (.text (n + 1)) e.toJson = .ok e := by
  rw [toJson, optionalMember_eq, optionalMember_eq]
  obtain ⟨source, target, sourceHandle, targetHandle⟩ := e
  refine Shape.Puts.decode_text_eq ?_ hasDistinctKeys_shape ?_ ?_
  · simp only [List.cons_append, List.nil_append]
    refine .cons 0 rfl rfl trivial (Field.put_required_eq_ok rfl _) ?_
    refine .cons 1 rfl rfl trivial (Field.put_required_eq_ok rfl _) ?_
    refine .append (.optional (fun s ↦ s) sourceHandle 2 rfl (fun _ ↦ rfl) rfl rfl) ?_
    exact .optional (fun s ↦ s) targetHandle 3 rfl (fun _ ↦ rfl) rfl rfl
  · cases sourceHandle <;> cases targetHandle <;> simp
  · simp [Shape.Covers, shape, Field.required, Field.withDefault]

private theorem Edge.isPlain_toJson (e : Edge) : e.toJson.IsPlain := by
  refine .object ?_
  rw [optionalMember_eq, optionalMember_eq]
  simp only [List.forall_mem_append, List.forall_mem_cons]
  exact ⟨⟨⟨.string _, .string _, List.forall_mem_nil _⟩, fun _ h ↦ isPlain_of_mem_optional h⟩,
    fun _ h ↦ isPlain_of_mem_optional h⟩

private theorem ErrorHandling.decode_name (source : Source) (handling : ErrorHandling) :
    Decoder.variant variants source (.string handling.name) = .ok handling :=
  Decoder.variant_eq_ok (by cases handling <;> decide)

private theorem Settings.hasDistinctKeys_shape : Settings.shape.HasDistinctKeys := by
  show List.Nodup _
  decide +kernel

private theorem Settings.decode_limit (source : Source) (ms : Option UInt64) :
    Decoder.optional (Decoder.natural .count) source
        (match ms with
        | some n => .number (.natural n.toNat)
        | none => .null) =
      .ok (ms.map UInt64.toNat) := by
  cases ms with
  | none => rfl
  | some n =>
    have hread : Decoder.natural .count source (.number (.natural n.toNat)) = .ok n.toNat := by
      rw [Decoder.natural]
      exact if_pos n.toNat_lt
    exact Decoder.optional_eq_ok Json.noConfusion hread

private theorem Settings.decode_toJson (n : Nat) (s : Settings) :
    Settings.shape.decode (.text (n + 1)) s.toJson = .ok s := by
  obtain ⟨ms, onError, routing⟩ := s
  have hlimit : ms.map (UInt64.ofNat ∘ UInt64.toNat) = ms := by
    cases ms <;> simp
  rw [toJson]
  refine Shape.Puts.decode_text_eq ?_ hasDistinctKeys_shape ?_ ?_
  · refine .cons 0 rfl rfl ?_ (Field.put_withDefault_eq_ok (decode_limit _ ms) _) ?_
    · cases ms <;> trivial
    refine .cons 1 rfl rfl trivial
      (Field.put_withDefault_eq_ok (ErrorHandling.decode_name _ _) _) ?_
    refine .cons 2 rfl rfl trivial (Field.put_withDefault_eq_ok (RoutingMode.decode_name _ _) _) ?_
    rw [Option.map_map, hlimit]
    exact .nil
  · simp
  · simp [Shape.Covers, shape, Field.withDefault]

private theorem Settings.isPlain_toJson (s : Settings) : s.toJson.IsPlain := by
  refine .object ?_
  simp only [List.forall_mem_cons]
  refine ⟨?_, .string _, .string _, List.forall_mem_nil _⟩
  cases s.maxExecutionTimeMs with
  | none => exact .null
  | some n =>
    have hlt : n.toNat < Nat.pow 2 64 := n.toNat_lt
    exact .natural (Nat.le_sub_one_of_lt hlt)

/-! ## Workflows -/

private theorem Uuid.decode_toText (source : Source) (id : Uuid) :
    Uuid.decode source (.string id.toText) = .ok id := by
  rw [decode, parse?_toText]

namespace Workflow

variable {w : Workflow} {freshId : Uuid}

private theorem hasDistinctKeys_shape (freshId : Uuid) :
    (Workflow.shape freshId).HasDistinctKeys := by
  show ["id", "name", "description", "nodes", "edges", "settings"].Nodup
  decide +kernel

private theorem decode_toJson (hplain : ∀ spec ∈ w.nodes, spec.IsPlain) {n : Nat}
    (hdepth : ∀ spec ∈ w.nodes, spec.depth ≤ n) :
    (Workflow.shape freshId).decode (.text (n + 3)) w.toJson = .ok w := by
  -- Reading goes down a level at the workflow, at a list of it, and at an element of the list.
  have hnodes : Decoder.list NodeSpec.shape.decode (.text (n + 2))
      (.array (w.nodes.map NodeSpec.toJson)) = .ok w.nodes :=
    Decoder.list_map_eq_ok rfl fun spec h ↦ spec.decode_toJson (hplain spec h) (hdepth spec h)
  have hedges : Decoder.list Edge.shape.decode (.text (n + 2))
      (.array (w.edges.map Edge.toJson)) = .ok w.edges :=
    Decoder.list_map_eq_ok rfl fun e _ ↦ e.decode_toJson n
  have hsettings := w.settings.decode_toJson (n + 1)
  rw [toJson, optionalMember_eq]
  obtain ⟨id, name, description, nodes, edges, settings⟩ := w
  refine Shape.Puts.decode_text_eq ?_ (hasDistinctKeys_shape freshId) ?_ ?_
  · simp only [List.cons_append, List.nil_append]
    refine .cons 0 rfl rfl trivial (Field.put_withDefault_eq_ok (Uuid.decode_toText _ id) _) ?_
    refine .cons 1 rfl rfl trivial (Field.put_required_eq_ok rfl _) ?_
    refine .append (.optional (fun s ↦ s) description 2 rfl (fun _ ↦ rfl) rfl rfl) ?_
    refine .cons 3 rfl rfl trivial (Field.put_required_eq_ok hnodes _) ?_
    refine .cons 4 rfl rfl trivial (Field.put_withDefault_eq_ok hedges _) ?_
    exact .cons 5 rfl rfl trivial (Field.put_withDefault_eq_ok hsettings _) .nil
  · cases description <;> simp
  · simp [Shape.Covers, shape, Field.required, Field.withDefault]

private theorem forall_depth_le_of_depth_toJson {n : Nat} (h : w.toJson.depth ≤ n + 3) :
    ∀ spec ∈ w.nodes, spec.depth ≤ n := by
  intro spec hspec
  obtain ⟨-, hmembers⟩ := depth_object_le_iff.mp h
  have hnodes := hmembers ("nodes", .array (w.nodes.map NodeSpec.toJson)) (by simp)
  obtain ⟨-, hitems⟩ := depth_array_le_iff.mp hnodes
  have hnode := hitems spec.toJson (List.mem_map_of_mem hspec)
  obtain ⟨-, hmembers⟩ := depth_object_le_iff.mp hnode
  exact hmembers ("config", (Value.object spec.config).toJson) (by simp)

private theorem isPlain_toJson (hplain : ∀ spec ∈ w.nodes, spec.IsPlain) : w.toJson.IsPlain := by
  refine .object ?_
  rw [optionalMember_eq]
  simp only [List.forall_mem_append, List.forall_mem_cons]
  refine ⟨⟨⟨.string _, .string _, List.forall_mem_nil _⟩, fun _ h ↦ isPlain_of_mem_optional h⟩,
    .array ?_, .array ?_, w.settings.isPlain_toJson, List.forall_mem_nil _⟩
  · rw [List.forall_mem_map]
    exact fun spec hspec ↦ (hplain spec hspec).isPlain_toJson
  · rw [List.forall_mem_map]
    exact fun e _ ↦ e.isPlain_toJson

/-- A workflow is read back from its text, if the configurations of its nodes are plain and nest no
deeper than what is left of the levels of a text. -/
private theorem parse_write_of_isPlain {style : Style} (hstyle : style.IsBlank)
    (hplain : ∀ spec ∈ w.nodes, spec.IsPlain)
    (hdepth : ∀ spec ∈ w.nodes, spec.depth ≤ Value.maxLevels - 3) :
    parse freshId (String.ofList (w.toJson.write style 0)) = .ok w := by
  -- The levels of a text are by three more than those of a configuration.
  have hread : (shape freshId).decode (.text Value.maxLevels) w.toJson = .ok w :=
    decode_toJson hplain hdepth
  rw [parse, decodeText, (isPlain_toJson hplain).parse_write hstyle]
  simp only [hread]
  rfl

/-! ### What was read -/

private theorem isOrdered_and_depth_le_of_decode {n : Nat} (hpos : 0 < n) {j : Json}
    (h : (shape freshId).decode (.text (n + 3)) j = .ok w) :
    ∀ spec ∈ w.nodes, (Value.object spec.config).IsOrdered ∧ spec.depth ≤ n := by
  refine Shape.Keeps.of_decode (p := fun w : Workflow ↦
    ∀ spec ∈ w.nodes, (Value.object spec.config).IsOrdered ∧ spec.depth ≤ n) ?_ ?_ h
  · exact List.forall_mem_nil _
  · rintro inner ⟨⟩
    simp only [Shape.Keeps, shape, List.forall_mem_cons]
    refine ⟨?_, ?_, ?_, ?_, ?_, ?_, List.forall_mem_nil _⟩
    all_goals
      intro j a b ha hput
      obtain ⟨x, hx, rfl⟩ := map_eq_ok_iff.mp hput
    -- Only the field of the nodes changes the nodes.
    · exact ha
    · exact ha
    · exact ha
    · intro spec hspec
      obtain ⟨inner, ⟨⟩, hnodes⟩ := Decoder.exists_of_list hx
      obtain ⟨item, hitem⟩ := hnodes spec hspec
      exact NodeSpec.isOrdered_and_depth_le_of_decode hpos hitem
    · exact ha
    · exact ha

private theorem isOrdered_and_depth_le_of_parse {s : String} (h : parse freshId s = .ok w) :
    ∀ spec ∈ w.nodes, (Value.object spec.config).IsOrdered ∧ spec.depth ≤ Value.maxLevels - 3 := by
  obtain ⟨a, hread, h⟩ := bind_eq_ok_iff.mp h
  have ha : a = w := by
    split at h
    · cases h
      rfl
    · cases h
  exact isOrdered_and_depth_le_of_decode (by decide) (ha ▸ hread)

/-- **Workflows are read back.** A workflow whose configurations are dictionaries with small
integers only, and whose document nests no deeper than texts may, is read back from its text in any
layout, with the same value in every field. If it was itself read from a text, then it is within the
levels, and its text is one that reading and writing leave as it is. -/
theorem parse_toJson_text (freshId : Uuid) {style : Style} (hstyle : style.IsBlank) :
    (∀ w : Workflow, (∀ spec ∈ w.nodes, (Value.object spec.config).IsOrdered) →
      (∀ spec ∈ w.nodes, (Value.object spec.config).IsIntegral) →
      w.toJson.depth ≤ Value.maxLevels →
      parse freshId (String.ofList (w.toJson.write style 0)) = .ok w) ∧
    ∀ (otherId : Uuid) (s : String) (w : Workflow), parse otherId s = .ok w →
      (∀ spec ∈ w.nodes, (Value.object spec.config).IsIntegral) →
      parse freshId (String.ofList (w.toJson.write style 0)) = .ok w ∧
        ((parse freshId (String.ofList (w.toJson.write style 0))).map fun w' ↦
            String.ofList (w'.toJson.write style 0)) =
          .ok (String.ofList (w.toJson.write style 0)) := by
  constructor
  · intro w hordered hintegral hdepth
    -- The workflow, its list of nodes and the node take three of the levels.
    exact parse_write_of_isPlain hstyle (fun spec h ↦ ⟨hordered spec h, hintegral spec h⟩)
      (forall_depth_le_of_depth_toJson hdepth)
  · intro otherId s w hread hintegral
    have hw := isOrdered_and_depth_le_of_parse hread
    have hagain : parse freshId (String.ofList (w.toJson.write style 0)) = .ok w :=
      parse_write_of_isPlain hstyle (fun spec h ↦ ⟨(hw spec h).1, hintegral spec h⟩)
        fun spec h ↦ (hw spec h).2
    refine ⟨hagain, ?_⟩
    rw [hagain]
    rfl

/-! ### A workflow with all that there is -/

/-- A workflow with a description, names that have to be escaped, a configuration with a negative
number, and the greatest time limit. -/
def annotated : Workflow where
  id := ⟨0x0f1e2d3c4b5a69788796a5b4c3d2e1f0, by decide⟩
  name := "a \"name\"\n"
  description := some ""
  nodes :=
    [{ id := "n", nodeType := "text", displayName := some "α",
        config := [("", .array [.number (.ofInt (-3)), .null]), ("template", .object [])] },
      { id := "m", nodeType := "condition" }]
  edges := [{ source := "n", target := "m", targetHandle := some "text" }]
  settings :=
    { maxExecutionTimeMs := some 18446744073709551615, onError := .continueOnError,
      routing := .lenient }

/-- The document of a workflow without an id, in which a node is written as a list. -/
def sketch : Json :=
  .object [("nodes", .array [.array [.string "n", .string "text"]]), ("name", .string "w"),
    ("since", .array [])]

def sketched : Workflow :=
  { id := .nil, name := "w", nodes := [{ id := "n", nodeType := "text" }] }

private theorem isPlain_sketch : sketch.IsPlain := by
  refine .object ?_
  simp only [List.forall_mem_cons]
  refine ⟨.array ?_, .string _, .array (List.forall_mem_nil _), List.forall_mem_nil _⟩
  simp only [List.forall_mem_cons]
  refine ⟨.array ?_, List.forall_mem_nil _⟩
  simp only [List.forall_mem_cons]
  exact ⟨.string _, .string _, List.forall_mem_nil _⟩

private theorem parse_sketch : parse .nil sketch.compact = .ok sketched := by
  have hread : (shape .nil).decode (.text Value.maxLevels) sketch = .ok sketched := rfl
  rw [parse, decodeText, compact, isPlain_sketch.parse_write Style.isBlank_compact]
  simp only [hread]
  rfl

private theorem isOrdered_annotated :
    ∀ spec ∈ annotated.nodes, (Value.object spec.config).IsOrdered := by
  simp only [annotated, List.forall_mem_cons]
  refine ⟨.object (List.pairwise_pair.mpr (by decide)) ?_, Value.isOrdered_object_nil,
    List.forall_mem_nil _⟩
  simp only [List.forall_mem_cons]
  refine ⟨.array ?_, Value.isOrdered_object_nil, List.forall_mem_nil _⟩
  simp only [List.forall_mem_cons]
  exact ⟨.number _, .null, List.forall_mem_nil _⟩

private theorem isIntegral_annotated :
    ∀ spec ∈ annotated.nodes, (Value.object spec.config).IsIntegral := by
  have hsmall : (Number.ofInt (-3)).smallInt? = some (-3) := by decide +kernel
  simp only [annotated, List.forall_mem_cons]
  refine ⟨.object ?_, Value.isIntegral_object_nil, List.forall_mem_nil _⟩
  simp only [List.forall_mem_cons]
  refine ⟨.array ?_, Value.isIntegral_object_nil, List.forall_mem_nil _⟩
  simp only [List.forall_mem_cons]
  exact ⟨.number hsmall, .null, List.forall_mem_nil _⟩

/-- The annotated workflow is read back from its text, and the sketched one from the text that is
written of what was read. -/
theorem parse_toJson_annotated :
    parse .nil (String.ofList (annotated.toJson.write .pretty 0)) = .ok annotated ∧
      parse .nil sketch.compact = .ok sketched ∧
      parse annotated.id (String.ofList (sketched.toJson.write .pretty 0)) = .ok sketched ∧
      (parse annotated.id (String.ofList (sketched.toJson.write .pretty 0))).map (fun w ↦
          String.ofList (w.toJson.write .pretty 0)) =
        .ok (String.ofList (sketched.toJson.write .pretty 0)) := by
  have hintegral : ∀ spec ∈ sketched.nodes, (Value.object spec.config).IsIntegral := by
    simp only [sketched, List.forall_mem_cons]
    exact ⟨Value.isIntegral_object_nil, List.forall_mem_nil _⟩
  have hagain := (parse_toJson_text annotated.id Style.isBlank_pretty).2 .nil _ sketched
    parse_sketch hintegral
  exact ⟨(parse_toJson_text .nil Style.isBlank_pretty).1 annotated isOrdered_annotated
    isIntegral_annotated (by decide +kernel), parse_sketch, hagain⟩

end Workflow

end FlowRouting
