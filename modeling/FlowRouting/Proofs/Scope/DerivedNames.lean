import FlowRouting.Node.Catalog
import FlowRouting.Proofs.Scope.Precedence
import FlowRouting.Proofs.Scope.Splitting
import FlowRouting.Proofs.Template.Operands

/-!
# Derived names in references

A node without a name of its own can be referred to all the same. The name that is derived for it is
that of no other such node, unless two types of the workflow have the same slug. It consists of
letters, digits and underscores, and it has an underscore, which no reserved namespace has. So it is
a namespace whatever is joined to it: the first dot of a reference is the one behind the name, and
no brace of the name opens or closes a span.

What can still get in the way is a node to which its author gave the very name that is derived for
another one.
-/

namespace FlowRouting

/-! ## Names that are namespaces -/

/-- A name that a reference can begin with: it is not reserved, and has nothing in it at which a
reference or a template is cut. -/
structure IsNamespace (name : String) : Prop where
  ne_empty : name ≠ ""
  notReserved : Reference.isReserved name = false
  dot : '.' ∉ name.toList
  opening : '{' ∉ name.toList
  closing : '}' ∉ name.toList
  blank : ∀ c ∈ name.toList, isBlank c = false

/-- A name stands for a node: alone for all that the node has put out, and with a path behind it for
what is at the path, in a reference, in an operand, and in a template. -/
structure Scope.Addresses (s : Scope) (name : String) (n : NamedNode) : Prop where
  whole : s.resolve name = s.outputs.find name "" n
  join : ∀ path : String, s.resolve (name ++ "." ++ path) = s.outputs.find name path.trimBlanks n
  operand : ∀ path : String, Template.hasOpening path = false →
    Template.resolveOperand s.resolve (name ++ "." ++ path) =
      s.outputs.find name path.trimBlanks n
  template : ∀ path : String, Template.IsInner path.toList →
    Template.interpolate s.resolve ("\x7b\x7b" ++ (name ++ "." ++ path) ++ "\x7d\x7d") =
      (s.outputs.find name path.trimBlanks n).map Value.toText

namespace IsNamespace

variable {name : String} (h : IsNamespace name)

include h

theorem trimBlanks_eq : name.trimBlanks = name :=
  String.trimBlanks_of_isTrimmed (.of_forall h.blank)

theorem split_self : Reference.split name = ⟨name, ""⟩ := by
  rw [Reference.split_of_notMem h.dot, h.trimBlanks_eq]

theorem split_join (path : String) :
    Reference.split (name ++ "." ++ path) = ⟨name, path.trimBlanks⟩ := by
  rw [Reference.split_join h.dot, h.trimBlanks_eq]

theorem hasOpening_join (path : String) :
    Template.hasOpening (name ++ "." ++ path) = Template.hasOpening path := by
  refine Template.hasOpening_append ?_ path
  simpa using h.opening

theorem isInner_join {path : String} (hpath : Template.IsInner path.toList) :
    Template.IsInner (name ++ "." ++ path).toList := by
  rw [String.toList_append]
  refine hpath.append ?_
  simpa using h.closing

theorem addresses {s : Scope} {n : NamedNode} (hbound : binding? s.nodes name = some (.node n.id)) :
    s.Addresses name n := by
  have hresolve : ∀ {reference path}, Reference.split reference = ⟨name, path⟩ →
      s.resolve reference = s.outputs.find name path n := by
    intro reference path hsplit
    have heq := @Scope.resolve_of_bound s reference
    rw [hsplit] at heq
    exact heq h.ne_empty h.notReserved hbound
  -- Blanks around a reference do not count.
  have htrimmed : ∀ path : String, Reference.split (name ++ "." ++ path).trimBlanks =
      ⟨name, path.trimBlanks⟩ := by
    intro path
    rw [Reference.split_trimBlanks, h.split_join]
  exact
    { whole := hresolve h.split_self
      join := fun path ↦ hresolve (h.split_join path)
      operand := by
        intro path hpath
        rw [Template.resolveOperand_of_bare ((h.hasOpening_join path).trans hpath)]
        exact hresolve (htrimmed path)
      template := by
        intro path hpath
        rw [Template.interpolate_span (h.isInner_join hpath), hresolve (htrimmed path)] }

end IsNamespace

/-! ## Derived names -/

private theorem Reference.isReserved_of_underscore_mem {scope : String} (h : '_' ∈ scope.toList) :
    isReserved scope = false := by
  have hnone : ∀ reserved ∈ reservedScopes, '_' ∉ reserved.toList := by decide
  rw [isReserved, ← Bool.not_eq_true, List.contains_iff_mem]
  exact fun hmem ↦ hnone scope hmem h

private theorem isNamespace_derivedName (nodeType : String) (ordinal : Nat) :
    IsNamespace (derivedName nodeType ordinal) := by
  have hunderscore : '_' ∈ (derivedName nodeType ordinal).toList := underscore_mem_derivedName
  have hnot : ∀ c : Char, c.isAlphanum = false → c ≠ '_' →
      c ∉ (derivedName nodeType ordinal).toList := by
    intro c halphanum hne hmem
    rcases isAlphanum_or_eq_of_mem_derivedName hmem with hc | hc
    · rw [halphanum] at hc
      cases hc
    · exact hne hc
  exact
    { ne_empty := by
        intro hempty
        rw [hempty] at hunderscore
        exact absurd hunderscore List.not_mem_nil
      notReserved := Reference.isReserved_of_underscore_mem hunderscore
      dot := hnot '.' (by decide) (by decide)
      opening := hnot '{' (by decide) (by decide)
      closing := hnot '}' (by decide) (by decide)
      blank := fun _ ↦ isBlank_of_mem_derivedName }

/-! ## Workflows whose types differ in their slugs -/

/-- Nodes of different types have types with different slugs. -/
def Workflow.HasDistinctSlugs (w : Workflow) : Prop :=
  ∀ s ∈ w.nodes, ∀ t ∈ w.nodes, slug s.nodeType = slug t.nodeType → s.nodeType = t.nodeType

private theorem NodeType.slug_name_injective :
    Function.Injective fun t : NodeType ↦ slug t.name := by
  have hmem : ∀ t : NodeType, t ∈ all := fun t ↦ List.mem_of_find?_eq_some (ofName?_name t)
  have hnodup : (all.map fun t ↦ slug t.name).Nodup := by decide
  exact fun s t h ↦ List.inj_on_of_nodup_map hnodup (hmem s) (hmem t) h

private theorem Workflow.hasDistinctSlugs_of_nodeType {w : Workflow}
    (h : ∀ spec ∈ w.nodes, ∃ t : NodeType, t.name = spec.nodeType) : w.HasDistinctSlugs := by
  intro spec hspec spec' hspec' hslug
  obtain ⟨t, ht⟩ := h spec hspec
  obtain ⟨t', ht'⟩ := h spec' hspec'
  rw [← ht, ← ht'] at hslug ⊢
  rw [NodeType.slug_name_injective hslug]

namespace Graph.Represents

variable {g : Graph} {w : Workflow} {m n : NamedNode}

theorem isNamespace_displayName (h : g.Represents w) (hn : n ∈ g.nodes)
    (hunnamed : n.spec.IsUnnamed) : IsNamespace n.displayName := by
  rcases explicitName?_or_derivedName (h.nodes_perm.mem_iff.mp hn) with hname | ⟨-, ordinal, hname⟩
  · rw [NodeSpec.explicitName?_eq_none_iff.mpr hunnamed] at hname
    cases hname
  · rw [hname]
    exact isNamespace_derivedName n.spec.nodeType ordinal

theorem displayName_ne_of_isUnnamed (h : g.Represents w) (hslugs : w.HasDistinctSlugs)
    (hm : m ∈ g.nodes) (hn : n ∈ g.nodes) (hmunnamed : m.spec.IsUnnamed)
    (hnunnamed : n.spec.IsUnnamed) (hne : m ≠ n) : m.displayName ≠ n.displayName := by
  intro hsame
  have hshares := sharesBySlug_of_ne (h.nodes_perm.mem_iff.mp hm) (h.nodes_perm.mem_iff.mp hn) hne
  obtain ⟨hslug, htype⟩ := hshares hmunnamed hnunnamed hsame
  exact htype (hslugs m.spec (h.spec_mem hm) n.spec (h.spec_mem hn) hslug)

/-- Among nodes that have a derived name only one that was given the name can get in its way. -/
theorem binding?_of_isUnnamed (h : g.Represents w) (hslugs : w.HasDistinctSlugs) {reader : String}
    (hn : n ∈ g.ancestors reader) (hunnamed : n.spec.IsUnnamed)
    (hgiven : ∀ m ∈ g.ancestors reader, m.spec.explicitName? ≠ some n.displayName) :
    binding? (g.ancestors reader) n.displayName = some (.node n.id) := by
  have hnodup : (g.ancestors reader).Nodup := h.nodup_nodes.sublist (g.sublist_ancestors reader)
  refine binding?_of_unique hnodup hn rfl fun m hm hname ↦ ?_
  have hmnodes := mem_nodes_of_mem_ancestors hm
  rcases explicitName?_or_derivedName (h.nodes_perm.mem_iff.mp hmnodes) with hexplicit | ⟨hm', -⟩
  · rw [hname] at hexplicit
    exact absurd hexplicit (hgiven m hm)
  · by_contra hne
    exact h.displayName_ne_of_isUnnamed hslugs hmnodes (mem_nodes_of_mem_ancestors hn) hm' hunnamed
      hne hname

end Graph.Represents

/-- **Derived names are different namespaces.** A graph has all nodes of its workflow. A node to
which its author gave no name, or a blank one, has a name in it that can be a namespace, and every
reference that is joined to the name is one into this namespace. If no two types in the workflow
have the same slug, as is the case where all of them are types that can run, then no two such nodes
have the same name; and a reader below such a node addresses it by its name, unless the author gave
this name to another node above the reader. -/
theorem derivedNames_distinct {w : Workflow} {g : Graph} (hbuild : Graph.build w = .ok g) :
    (g.nodes.map NamedNode.spec).Perm w.nodes ∧
      (∀ n ∈ g.nodes, n.spec.IsUnnamed → IsNamespace n.displayName ∧
        ∀ path : String, Reference.split (n.displayName ++ "." ++ path) =
          ⟨n.displayName, path.trimBlanks⟩) ∧
      ((∀ spec ∈ w.nodes, ∃ t : NodeType, t.name = spec.nodeType) → w.HasDistinctSlugs) ∧
      (w.HasDistinctSlugs →
        (∀ m ∈ g.nodes, ∀ n ∈ g.nodes, m.spec.IsUnnamed → n.spec.IsUnnamed → m.id ≠ n.id →
          m.displayName ≠ n.displayName) ∧
        ∀ (reader : String) (outputs : OutputStore) (run : RunContext),
          ∀ n ∈ g.ancestors reader, n.spec.IsUnnamed →
            (∀ m ∈ g.ancestors reader, m.spec.explicitName? ≠ some n.displayName) →
            (g.scope reader outputs run).Addresses n.displayName n) := by
  have h := Graph.represents_of_build hbuild
  refine ⟨?_, ?_, Workflow.hasDistinctSlugs_of_nodeType, fun hslugs ↦ ⟨?_, ?_⟩⟩
  · have hperm := h.nodes_perm.map NamedNode.spec
    rwa [map_spec_nameNodes] at hperm
  · intro n hn hunnamed
    have hnamespace := h.isNamespace_displayName hn hunnamed
    exact ⟨hnamespace, hnamespace.split_join⟩
  · intro m hm n hn hmunnamed hnunnamed hid
    have hne : m ≠ n := fun heq ↦ hid (congrArg NamedNode.id heq)
    exact h.displayName_ne_of_isUnnamed hslugs hm hn hmunnamed hnunnamed hne
  · intro reader outputs run n hn hunnamed hgiven
    have hnamespace := h.isNamespace_displayName (Graph.mem_nodes_of_mem_ancestors hn) hunnamed
    exact hnamespace.addresses (h.binding?_of_isUnnamed hslugs hn hunnamed hgiven)

/-- Types that have the same slug share their names. -/
example :
    (nameNodes [] [{ id := "a", nodeType := "ai.chat" }, { id := "b", nodeType := "ai-chat" }]).map
      NamedNode.displayName = ["ai_chat_0", "ai_chat_0"] := by
  decide

/-! ### Named and unnamed nodes of one type

Of four nodes of one type the first and the last have names by their author, and what would be the
name of the second is blank. The slug of another type has an underscore in it. -/

def untitledBody : NamedNode :=
  ⟨{ id := "body", nodeType := "text", displayName := some " \t" }, "text_1"⟩

def untitledParser : NamedNode :=
  ⟨{ id := "parser", nodeType := "transform.json_parse" }, "transform_json_parse_0"⟩

def untitledNote : NamedNode :=
  ⟨{ id := "note", nodeType := "text" }, "text_2"⟩

/-- The three nodes between two that have names, the last of which reads the others. -/
def untitled : Workflow where
  id := Uuid.nil
  name := "untitled"
  nodes :=
    [{ id := "title", nodeType := "text", displayName := some "Title" }, untitledBody.spec,
      untitledParser.spec, untitledNote.spec,
      { id := "reader", nodeType := "text", displayName := some "Reader" }]
  edges :=
    ["title", "body", "parser", "note"].map fun source ↦ { source, target := "reader" }

def untitledGraph : Graph where
  nodes :=
    ["note", "parser", "body", "title", "reader"].filterMap fun id ↦
      (nameNodes [] untitled.nodes).find? (·.id == id)
  edges := untitled.edges

def untitledStore : OutputStore :=
  [("title", [("text", .text "On names")]), ("body", [("text", .text "first")]),
    ("parser", [("parsed", .null)]), ("note", [("text", .text "second")])]

private theorem build_untitled : Graph.build untitled = .ok untitledGraph := rfl

private theorem ancestors_untitled : untitledGraph.ancestors "reader" =
    [untitledNote, untitledParser, untitledBody, ⟨untitled.nodes[0], "Title"⟩] := rfl

/-- The names of the two texts differ, that of the parser is a namespace, and the reader finds what
the texts have put out. -/
theorem derivedNames_distinct_untitled :
    Graph.build untitled = .ok untitledGraph ∧ untitled.HasDistinctSlugs ∧
      untitledBody.displayName ≠ untitledNote.displayName ∧
      IsNamespace untitledParser.displayName ∧
      (untitledGraph.scope "reader" untitledStore exampleContext).resolve "text_1.text" =
        .ok (.text "first") ∧
      Template.interpolate (untitledGraph.scope "reader" untitledStore exampleContext).resolve
        "\x7b\x7btext_2.text\x7d\x7d" = .ok "second" := by
  obtain ⟨-, hnamespace, hstandard, hdistinct⟩ := derivedNames_distinct build_untitled
  have hslugs : untitled.HasDistinctSlugs := by
    have htypes : ∀ spec ∈ untitled.nodes, (NodeType.ofName? spec.nodeType).isSome = true := by
      decide
    refine hstandard fun spec hspec ↦ ?_
    obtain ⟨t, ht⟩ := Option.isSome_iff_exists.mp (htypes spec hspec)
    exact ⟨t, NodeType.name_of_ofName? ht⟩
  obtain ⟨hnames, haddresses⟩ := hdistinct hslugs
  have hnote : untitledNote ∈ untitledGraph.ancestors "reader" := ancestors_untitled ▸ .head _
  have hparser : untitledParser ∈ untitledGraph.ancestors "reader" :=
    ancestors_untitled ▸ .tail _ (.head _)
  have hbody : untitledBody ∈ untitledGraph.ancestors "reader" :=
    ancestors_untitled ▸ .tail _ (.tail _ (.head _))
  have hbodyUnnamed : untitledBody.spec.IsUnnamed := by
    rintro name ⟨⟩
    decide
  have hbodyAddressed := haddresses "reader" untitledStore exampleContext untitledBody hbody
    hbodyUnnamed (by decide)
  have hnoteAddressed := haddresses "reader" untitledStore exampleContext untitledNote hnote nofun
    (by decide)
  refine ⟨build_untitled, hslugs, ?_, ?_, hbodyAddressed.join "text", ?_⟩
  · exact hnames untitledBody (Graph.mem_nodes_of_mem_ancestors hbody) untitledNote
      (Graph.mem_nodes_of_mem_ancestors hnote) hbodyUnnamed nofun (by decide)
  · exact (hnamespace untitledParser (Graph.mem_nodes_of_mem_ancestors hparser) nofun).1
  · exact hnoteAddressed.template "text" ⟨by decide, by decide⟩

end FlowRouting
