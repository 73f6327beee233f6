import FlowRouting.Node.Execution
import FlowRouting.Proofs.Run.Visits
import FlowRouting.Proofs.Scope.Splitting
import FlowRouting.Proofs.Template.Operands
import FlowRouting.Proofs.Value.Json

/-!
# Values as texts between nodes

A value gets from one node to another as a text in two ways. One node writes it with a line for
every item, and another reads that text, wherever it has it from; or a template inserts it in the
compact form, and the node reads what the template is rendered as. Both layouts put nothing but
blanks between the parts of a document, so either way the value is read back.

The template has to be a single span, for anything else in it becomes part of the text. A reference
with closing braces ends the span too early, and then it is another reference that is looked up.
-/

namespace FlowRouting

/-! ## References between blanks -/

/-- A reference that resolves to a value still does without the blanks around it. -/
def Variables.IgnoresBlanks (vars : Variables) : Prop :=
  ∀ reference v, vars reference = .ok v → vars reference.trimBlanks = .ok v

private theorem Scope.ignoresBlanks_resolve (s : Scope) : Variables.IgnoresBlanks s.resolve := by
  intro reference v hv
  rw [resolve] at hv ⊢
  rw [Reference.split_trimBlanks, String.trimBlanks_trimBlanks]
  -- Only an error has the reference in it as it stands.
  by_cases hscope : (Reference.split reference).scope.isEmpty = true
  · simp only [hscope, if_true] at hv
    cases hv
  · simp only [hscope] at hv ⊢
    exact hv

/-- So does a name in a list of values. -/
theorem Variables.ignoresBlanks_ofDict (entries : Dict Value) :
    (Variables.ofDict entries).IgnoresBlanks := by
  intro reference v hv
  rw [ofDict, String.trimBlanks_trimBlanks]
  exact hv

/-! ## One node that writes and one that reads -/

namespace NodeContext

variable (ctx : NodeContext)

/-- The value that is to be written as JSON. -/
def valueToWrite (source : Option String) : Except NodeError Value :=
  match source with
  | some operand => evaluating (Template.resolveOperand ctx.bindings operand)
  | none => ctx.requireInput "value"

private theorem writeJson_eq (source : Option String) :
    ctx.writeJson source = (ctx.valueToWrite source).map fun v ↦ .text v.toJson.pretty := by
  cases source with
  | none =>
    rw [writeJson, valueToWrite]
    cases ctx.requireInput "value" <;> rfl
  | some operand =>
    rw [writeJson, valueToWrite]
    cases evaluating (Template.resolveOperand ctx.bindings operand) <;> rfl

variable {ctx}

private theorem execute_jsonStringify {source : Option String} {v : Value}
    (h : ctx.valueToWrite source = .ok v) :
    (Task.jsonStringify source).execute ctx =
      { result := .ok (.single "json" (.text v.toJson.pretty)) } := by
  rw [Task.execute, writeJson_eq, h]
  rfl

private theorem execute_jsonParse {source : Option String} {text : String} {v : Value}
    (htext : ctx.jsonText source = .ok text) (hread : Value.parse text = .ok v) :
    (Task.jsonParse source).execute ctx = { result := .ok (.single "parsed" v) } := by
  rw [Task.execute, parseJson, htext]
  simp only [bind, Except.bind, hread]
  rfl

private theorem jsonText_span {reference : String} (hinner : Template.IsInner reference.toList)
    {v : Value} (hv : ctx.bindings reference.trimBlanks = .ok v) :
    ctx.jsonText (some ("\x7b\x7b" ++ reference ++ "\x7d\x7d")) = .ok v.toText := by
  rw [jsonText, Template.interpolate_span hinner, hv]
  rfl

end NodeContext

/-- **Values come through texts unchanged.** A value whose numbers are small integers, and which
nests no deeper than texts may, is what one gets by reading the text that a node has written of it.
If it is a list or a record, then it is also what one gets by reading a single span with a reference
to it, unless the reference closes the span itself. -/
theorem jsonParse_text_eq {v : Value} (hordered : v.IsOrdered) (hintegral : v.IsIntegral)
    (hdepth : v.toJson.depth ≤ Value.maxLevels) :
    (∀ (ctx : NodeContext) (source : Option String), ctx.valueToWrite source = .ok v →
      ∃ text, (Task.jsonStringify source).execute ctx =
          { result := .ok (.single "json" (.text text)) } ∧
        ∀ (reader : NodeContext) (source : Option String), reader.jsonText source = .ok text →
          (Task.jsonParse source).execute reader = { result := .ok (.single "parsed" v) }) ∧
    ∀ (ctx : NodeContext) (reference : String), ctx.bindings.IgnoresBlanks →
      ctx.bindings reference = .ok v → v.kind = .array ∨ v.kind = .object →
      Template.IsInner reference.toList →
      (Task.jsonParse (some ("\x7b\x7b" ++ reference ++ "\x7d\x7d"))).execute ctx =
        { result := .ok (.single "parsed" v) } := by
  have hpretty : Value.parse v.toJson.pretty = .ok v :=
    Value.parse_write hordered hintegral hdepth Json.Style.isBlank_pretty
  have hcompact : Value.parse v.toJson.compact = .ok v :=
    Value.parse_write hordered hintegral hdepth Json.Style.isBlank_compact
  constructor
  · intro ctx source hsource
    refine ⟨v.toJson.pretty, NodeContext.execute_jsonStringify hsource, ?_⟩
    intro reader source htext
    exact NodeContext.execute_jsonParse htext hpretty
  · intro ctx reference hblanks hv hkind hinner
    have htext := NodeContext.jsonText_span hinner (hblanks reference v hv)
    -- Any other value would be inserted as a text of its own, a text even without its quotes.
    have hcompound : v.toText = v.toJson.compact := by
      cases v with
      | array items => rfl
      | object fields => rfl
      | null | bool | number | text => rcases hkind with hkind | hkind <;> cases hkind
    rw [hcompound] at htext
    exact NodeContext.execute_jsonParse htext hcompact

/-! ### A node with closing braces in its name

Between double braces the reference to its list stands for another one, whose namespace is the part
of the name before the closing braces. -/

/-- A list of a text, of a record and of a record in it. -/
def nestedList : Value :=
  .array [.text "\"\\\n\x7d\x7d", .object [("", .number (.ofInt (-7))), ("a", .object [])]]

/-- What a node sees that has two nodes above it, of which one has closing braces in its name. -/
def bracedScope : Scope where
  nodes := [⟨{ id := "list", nodeType := "text" }, "list"⟩,
    ⟨{ id := "braced", nodeType := "text" }, "a\x7d\x7db"⟩]
  outputs := [("braced", [("parsed", nestedList)]), ("list", [("parsed", nestedList)])]
  run := exampleContext

/-- A node with that scope, which has the list as its input as well. -/
def bracedContext : NodeContext where
  displayName := "reader"
  inputs := [("value", nestedList)]
  bindings := bracedScope.resolve
  routing := .strict

private theorem isOrdered_nestedList : nestedList.IsOrdered := by
  refine .array ?_
  simp only [List.forall_mem_cons]
  refine ⟨.text _, .object ?_ ?_, List.forall_mem_nil _⟩
  · exact List.pairwise_pair.mpr (by decide)
  · simp only [List.forall_mem_cons]
    exact ⟨.number _, Value.isOrdered_object_nil, List.forall_mem_nil _⟩

private theorem isIntegral_nestedList : nestedList.IsIntegral := by
  have hsmall : (Number.ofInt (-7)).smallInt? = some (-7) := by decide +kernel
  refine .array ?_
  simp only [List.forall_mem_cons]
  refine ⟨.text _, .object ?_, List.forall_mem_nil _⟩
  simp only [List.forall_mem_cons]
  exact ⟨.number hsmall, Value.isIntegral_object_nil, List.forall_mem_nil _⟩

private theorem depth_nestedList : nestedList.toJson.depth ≤ Value.maxLevels := by
  decide +kernel

private theorem resolve_list : bracedScope.resolve "list . parsed " = .ok nestedList := rfl

/-- The list comes through a text that one node writes and another has as its input, and through a
span with its reference between blanks. -/
theorem jsonParse_nestedList :
    bracedContext.valueToWrite none = .ok nestedList ∧
      bracedContext.bindings "list . parsed " = .ok nestedList ∧
      (∃ text, (Task.jsonStringify none).execute bracedContext =
          { result := .ok (.single "json" (.text text)) } ∧
        (Task.jsonParse none).execute { bracedContext with inputs := [("json", .text text)] } =
          { result := .ok (.single "parsed" nestedList) }) ∧
      (Task.jsonParse (some ("\x7b\x7b" ++ "list . parsed " ++ "\x7d\x7d"))).execute bracedContext =
        { result := .ok (.single "parsed" nestedList) } := by
  obtain ⟨hnode, hspan⟩ :=
    jsonParse_text_eq isOrdered_nestedList isIntegral_nestedList depth_nestedList
  refine ⟨rfl, resolve_list, ?_, ?_⟩
  · obtain ⟨text, hwrite, hread⟩ := hnode bracedContext none rfl
    exact ⟨text, hwrite, hread _ none rfl⟩
  · exact hspan bracedContext "list . parsed " bracedScope.ignoresBlanks_resolve resolve_list
      (.inl rfl) ⟨by decide +kernel, by decide +kernel⟩

/-- The same list does not come through a span with a reference by the name that has closing braces,
although the reference resolves to it. -/
theorem jsonParse_braced :
    nestedList.IsOrdered ∧ nestedList.IsIntegral ∧ nestedList.toJson.depth ≤ Value.maxLevels ∧
      nestedList.kind = .array ∧
      bracedContext.bindings "a\x7d\x7db.parsed" = .ok nestedList ∧
      (Task.jsonParse (some ("\x7b\x7b" ++ "a\x7d\x7db.parsed" ++ "\x7d\x7d"))).execute
          bracedContext =
        { result := .error (.evaluation (.unknownVariable "a")) } :=
  ⟨isOrdered_nestedList, isIntegral_nestedList, depth_nestedList, rfl, rfl, rfl⟩

end FlowRouting
