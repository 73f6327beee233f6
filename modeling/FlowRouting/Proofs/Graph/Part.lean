import FlowRouting.Proofs.Digraph.Restriction
import FlowRouting.Proofs.Graph.Ancestors

/-!
# Parts of a workflow

A part of a workflow has some of its nodes and every edge that leads to one of them. What is above a
node of the part is then the same in the part and in the whole. There are two cases of interest: the
nodes are the same and only come in another order; or the part is a *slice*, which keeps the nodes
with certain ids, among them the sources of the edges to nodes that are kept.

Names by type depend on how many nodes of that type come before, and so on what is left out. All of
this is therefore about workflows whose nodes have names by their author.
-/

namespace FlowRouting

/-! ## Names by the author -/

/-- Every node has a name by its author. -/
def Workflow.IsNamed (w : Workflow) : Prop :=
  ∀ spec ∈ w.nodes, spec.explicitName?.isSome = true

/-- The node under its name, if it has one by its author. -/
def NodeSpec.named (spec : NodeSpec) : NamedNode :=
  ⟨spec, spec.nameBehind []⟩

private theorem nameNodes_eq_map {earlier specs : List NodeSpec}
    (h : ∀ spec ∈ specs, spec.explicitName?.isSome = true) :
    nameNodes earlier specs = specs.map NodeSpec.named := by
  induction specs generalizing earlier with
  | nil => rfl
  | cons spec specs ih =>
    obtain ⟨name, hname⟩ := Option.isSome_iff_exists.mp (h spec List.mem_cons_self)
    have hbehind := NodeSpec.nameBehind_of_explicitName? hname
    rw [nameNodes, ih fun spec hspec ↦ h spec (List.mem_cons_of_mem _ hspec), List.map_cons,
      NodeSpec.named, hbehind, hbehind]

theorem NodeSpec.explicitName?_eq_some_displayName {spec : NodeSpec}
    (h : spec.explicitName?.isSome = true) : spec.explicitName? = some spec.named.displayName := by
  obtain ⟨name, hname⟩ := Option.isSome_iff_exists.mp h
  rw [named, nameBehind_of_explicitName? hname, hname]

theorem Graph.Represents.mem_nodes_iff {g : Graph} {w : Workflow} (h : g.Represents w)
    (hnamed : w.IsNamed) {n : NamedNode} : n ∈ g.nodes ↔ ∃ spec ∈ w.nodes, spec.named = n := by
  rw [h.nodes_perm.mem_iff, nameNodes_eq_map hnamed, List.mem_map]

/-! ## Parts -/

/-- A workflow is a part of another one. -/
structure Workflow.IsPart (part whole : Workflow) : Prop where
  nodes_subset : part.nodes ⊆ whole.nodes
  nodup_ids : (part.nodes.map NodeSpec.id).Nodup
  edges_subset : part.edges ⊆ whole.edges
  ends_mem : ∀ e ∈ part.edges,
    e.source ∈ part.nodes.map NodeSpec.id ∧ e.target ∈ part.nodes.map NodeSpec.id
  incoming_eq : ∀ id ∈ part.nodes.map NodeSpec.id,
    part.edges.filter (·.target == id) = whole.edges.filter (·.target == id)
  settings_eq : part.settings = whole.settings
  /-- No node that is left out has the id of a node of the part as its name. -/
  unshadowed : ∀ spec ∈ part.nodes, ∀ other ∈ whole.nodes,
    other.explicitName? = some spec.id → other ∈ part.nodes

namespace Workflow.IsPart

open FlowRouting.Digraph

variable {part whole : Workflow} {g g' : Graph}

theorem isNamed (h : part.IsPart whole) (hnamed : whole.IsNamed) : part.IsNamed :=
  fun spec hspec ↦ hnamed spec (h.nodes_subset hspec)

theorem ends_subset (h : part.IsPart whole) : Graph.ends part.edges ⊆ Graph.ends whole.edges :=
  List.map_subset _ h.edges_subset

/-- A part of a workflow that has a graph has one. -/
theorem exists_build (h : part.IsPart whole) (hbuild : Graph.build whole = .ok g) :
    ∃ g', Graph.build part = .ok g' := by
  have hg := Graph.represents_of_build hbuild
  obtain ⟨_, hedges, _⟩ := Graph.build_eq_ok_iff.mp hbuild
  have hacyclic : IsAcyclic (Graph.ends part.edges) := by
    have hforward := hg.isForward
    rw [hg.edges_eq] at hforward
    exact (isAcyclic_of_isForward hforward).mono h.ends_subset
  have hends : ∀ e ∈ Graph.ends part.edges,
      e.1 ∈ part.nodes.map NodeSpec.id ∧ e.2 ∈ part.nodes.map NodeSpec.id := by
    rintro ⟨x, y⟩ hmem
    obtain ⟨e, he, rfl, rfl⟩ := Graph.exists_edge_of_mem_ends hmem
    exact h.ends_mem e he
  refine ⟨_, Graph.build_eq_ok_iff.mpr ⟨h.nodup_ids, fun e he ↦ ?_, _,
    (topologicalOrder?_eq_some_iff hends).mpr ⟨hacyclic, rfl⟩, rfl⟩⟩
  obtain ⟨_, _, hself⟩ := Graph.edgeError?_eq_none_iff.mp (hedges e (h.edges_subset he))
  exact Graph.edgeError?_eq_none_iff.mpr ⟨(h.ends_mem e he).1, (h.ends_mem e he).2, hself⟩

section Graphs

variable (h : part.IsPart whole) (hnamed : whole.IsNamed) (hg : g.Represents whole)
  (hg' : g'.Represents part)

include h hnamed hg hg'

theorem graph_nodes_subset : g'.nodes ⊆ g.nodes := by
  intro n hn
  obtain ⟨spec, hspec, rfl⟩ := (hg'.mem_nodes_iff (h.isNamed hnamed)).mp hn
  exact (hg.mem_nodes_iff hnamed).mpr ⟨spec, h.nodes_subset hspec, rfl⟩

theorem mem_graph_nodes_iff {n : NamedNode} :
    n ∈ g'.nodes ↔ n ∈ g.nodes ∧ n.id ∈ part.nodes.map NodeSpec.id := by
  constructor
  · intro hn
    refine ⟨h.graph_nodes_subset hnamed hg hg' hn, ?_⟩
    exact hg'.mem_order_iff.mp (List.mem_map_of_mem hn)
  · rintro ⟨hn, hid⟩
    obtain ⟨m, hm, hmid⟩ := List.mem_map.mp (hg'.mem_order_iff.mpr hid)
    rwa [← hg.eq_of_id_eq (h.graph_nodes_subset hnamed hg hg' hm) hn hmid]

omit hnamed in
theorem incoming_eq_incoming {id : String} (hid : id ∈ part.nodes.map NodeSpec.id) :
    g'.incoming id = g.incoming id := by
  rw [Graph.incoming, Graph.incoming, hg.edges_eq, hg'.edges_eq]
  exact h.incoming_eq id hid

omit hnamed hg hg' in
theorem reaches_of_reaches {x y : String} (hreach : Reaches (Graph.ends whole.edges) x y)
    (hy : y ∈ part.nodes.map NodeSpec.id) :
    x ∈ part.nodes.map NodeSpec.id ∧ Reaches (Graph.ends part.edges) x y := by
  have hback : ∀ a b, (a, b) ∈ Graph.ends whole.edges → b ∈ part.nodes.map NodeSpec.id →
      a ∈ part.nodes.map NodeSpec.id ∧ (a, b) ∈ Graph.ends part.edges := by
    intro a b hmem hb
    obtain ⟨e, he, rfl, rfl⟩ := Graph.exists_edge_of_mem_ends hmem
    have hincoming : e ∈ part.edges.filter (·.target == e.target) := by
      rw [h.incoming_eq e.target hb]
      exact List.mem_filter.mpr ⟨he, beq_self_eq_true _⟩
    have hpart := List.mem_of_mem_filter hincoming
    exact ⟨(h.ends_mem e hpart).1, Graph.mem_ends_of_mem hpart⟩
  induction hreach with
  | edge he => exact ⟨(hback _ _ he hy).1, .edge (hback _ _ he hy).2⟩
  | step he _ ih =>
    obtain ⟨hmiddle, hrest⟩ := ih hy
    exact ⟨(hback _ _ he hmiddle).1, .step (hback _ _ he hmiddle).2 hrest⟩

/-- A node of the part has the same ancestors in the part and in the whole. -/
theorem ancestors_perm {id : String} (hid : id ∈ part.nodes.map NodeSpec.id) :
    (g'.ancestors id).Perm (g.ancestors id) := by
  refine (List.perm_ext_iff_of_nodup (hg'.nodup_nodes.filter _) (hg.nodup_nodes.filter _)).mpr
    fun n ↦ ?_
  show n ∈ g'.ancestors id ↔ n ∈ g.ancestors id
  rw [Graph.mem_ancestors_iff, Graph.mem_ancestors_iff, h.mem_graph_nodes_iff hnamed hg hg',
    hg.edges_eq, hg'.edges_eq]
  constructor
  · rintro ⟨⟨hn, _⟩, hne, hreach⟩
    exact ⟨hn, hne, hreach.mono h.ends_subset⟩
  · rintro ⟨hn, hne, hreach⟩
    obtain ⟨hpart, hreach⟩ := h.reaches_of_reaches hreach hid
    exact ⟨⟨hn, hpart⟩, hne, hreach⟩

end Graphs

end Workflow.IsPart

/-! ## The same nodes in another order -/

/-- Two workflows differ only in the order of their nodes. -/
structure Workflow.Reorders (w' w : Workflow) : Prop where
  nodes_perm : w'.nodes.Perm w.nodes
  rest_eq : { w' with nodes := [] } = { w with nodes := [] }

namespace Workflow.Reorders

variable {w w' : Workflow} {g g' : Graph}

theorem symm (h : w'.Reorders w) : w.Reorders w' :=
  ⟨h.nodes_perm.symm, h.rest_eq.symm⟩

theorem isNamed (h : w'.Reorders w) (hnamed : w.IsNamed) : w'.IsNamed :=
  fun spec hspec ↦ hnamed spec (h.nodes_perm.mem_iff.mp hspec)

theorem edges_eq (h : w'.Reorders w) : w'.edges = w.edges := by
  have hedges := congrArg Workflow.edges h.rest_eq
  exact hedges

theorem settings_eq (h : w'.Reorders w) : w'.settings = w.settings := by
  have hsettings := congrArg Workflow.settings h.rest_eq
  exact hsettings

theorem isPart (h : w'.Reorders w) (hg : g.Represents w) : w'.IsPart w where
  nodes_subset := h.nodes_perm.subset
  nodup_ids := (h.nodes_perm.map NodeSpec.id).nodup_iff.mpr hg.nodup_ids
  edges_subset := by
    rw [h.edges_eq]
    exact List.Subset.refl _
  ends_mem e he := by
    rw [h.edges_eq] at he
    rw [(h.nodes_perm.map NodeSpec.id).mem_iff, (h.nodes_perm.map NodeSpec.id).mem_iff]
    exact hg.ends_mem e he
  incoming_eq id _ := by rw [h.edges_eq]
  settings_eq := h.settings_eq
  unshadowed _ _ _ hother _ := h.nodes_perm.mem_iff.mpr hother

/-- The nodes of the two graphs are the same. -/
theorem graph_nodes_perm (h : w'.Reorders w) (hg : g.Represents w) (hg' : g'.Represents w')
    (hnamed : w.IsNamed) : g'.nodes.Perm g.nodes := by
  have hnodes := hg.nodes_perm
  have hnodes' := hg'.nodes_perm
  rw [nameNodes_eq_map hnamed] at hnodes
  rw [nameNodes_eq_map (h.isNamed hnamed)] at hnodes'
  exact (hnodes'.trans (h.nodes_perm.map NodeSpec.named)).trans hnodes.symm

end Workflow.Reorders

/-! ## Slices -/

namespace Workflow

/-- The workflow with only the nodes whose ids are kept and the edges between them. -/
def slice (w : Workflow) (keep : String → Bool) : Workflow :=
  { w with
    nodes := w.nodes.filter fun spec ↦ keep spec.id
    edges := w.edges.filter fun e ↦ keep e.source && keep e.target }

/-- The sources of edges to nodes that are kept are kept. -/
def KeepsSources (w : Workflow) (keep : String → Bool) : Prop :=
  ∀ e ∈ w.edges, keep e.target = true → keep e.source = true

/-- No node has the id of another node as its name. -/
def NamesNoOther (w : Workflow) : Prop :=
  ∀ spec ∈ w.nodes, ∀ other ∈ w.nodes, other.explicitName? = some spec.id → other = spec

variable {w : Workflow} {keep : String → Bool}

private theorem map_id_slice : (w.slice keep).nodes.map NodeSpec.id =
    (w.nodes.map NodeSpec.id).filter keep := by
  rw [slice, List.filter_map]
  rfl

private theorem ends_slice : Graph.ends (w.slice keep).edges =
    Digraph.restricted keep (Graph.ends w.edges) := by
  rw [slice, Graph.ends, Graph.ends, Digraph.restricted, List.filter_map]
  rfl

theorem isPart_slice {g : Graph} (h : g.Represents w) (hkeep : w.KeepsSources keep)
    (hnames : w.NamesNoOther) : (w.slice keep).IsPart w where
  nodes_subset := List.filter_sublist.subset
  nodup_ids := by
    rw [map_id_slice]
    exact h.nodup_ids.filter _
  edges_subset := List.filter_sublist.subset
  ends_mem e he := by
    obtain ⟨he, hkept⟩ := List.mem_filter.mp he
    rw [Bool.and_eq_true] at hkept
    rw [map_id_slice]
    exact ⟨List.mem_filter.mpr ⟨(h.ends_mem e he).1, hkept.1⟩,
      List.mem_filter.mpr ⟨(h.ends_mem e he).2, hkept.2⟩⟩
  incoming_eq id hid := by
    rw [map_id_slice] at hid
    rw [slice, List.filter_filter]
    refine List.filter_congr fun e he ↦ ?_
    cases htarget : e.target == id with
    | false => rw [Bool.false_and]
    | true =>
      have hkept : keep e.target = true := by
        rw [beq_iff_eq.mp htarget]
        exact (List.mem_filter.mp hid).2
      rw [hkeep e he hkept, hkept]
      rfl
  settings_eq := rfl
  unshadowed spec hspec other hother hname := by
    rw [hnames spec (List.mem_of_mem_filter hspec) other hother hname]
    exact hspec

private theorem filter_find?_id {nodes : List NamedNode} (keep : String → Bool) (id : String) :
    (nodes.find? (·.id == id)).filter (fun n ↦ keep n.id) =
      if keep id = true then (nodes.filter fun n ↦ keep n.id).find? (·.id == id) else none := by
  induction nodes with
  | nil => rw [List.filter_nil, List.find?_nil, ite_self, Option.filter_none]
  | cons n nodes ih =>
    by_cases hid : n.id = id
    · have hfound : ∀ rest : List NamedNode, (n :: rest).find? (·.id == id) = some n := fun _ ↦ by
        rw [List.find?_cons, beq_iff_eq.mpr hid]
      rw [hfound, Option.filter_some, hid]
      by_cases hkept : keep id = true
      · rw [if_pos hkept, if_pos hkept, List.filter_cons_of_pos (by rwa [hid]), hfound]
      · rw [if_neg hkept, if_neg hkept]
    · have hpassed : ∀ rest : List NamedNode,
          (n :: rest).find? (·.id == id) = rest.find? (·.id == id) := fun _ ↦ by
        rw [List.find?_cons, beq_false_of_ne hid]
      rw [hpassed, ih, List.filter_cons]
      by_cases hkept : keep n.id = true
      · rw [if_pos hkept, hpassed]
      · rw [if_neg hkept]

/-- A slice has the nodes of the whole graph that are kept, in the same order. -/
theorem build_slice {g : Graph} (hbuild : Graph.build w = .ok g) (hnamed : w.IsNamed)
    (hkeep : w.KeepsSources keep) :
    Graph.build (w.slice keep) =
      .ok ⟨g.nodes.filter fun n ↦ keep n.id, (w.slice keep).edges⟩ := by
  have hg := Graph.represents_of_build hbuild
  obtain ⟨hnodup, hedges, order, horder, rfl⟩ := Graph.build_eq_ok_iff.mp hbuild
  have hinitial : Digraph.IsInitial keep (Graph.ends w.edges) := by
    rintro ⟨x, y⟩ hmem hy
    obtain ⟨e, he, rfl, rfl⟩ := Graph.exists_edge_of_mem_ends hmem
    exact hkeep e he hy
  have hids : (nameNodes [] (w.slice keep).nodes) =
      (nameNodes [] w.nodes).filter fun n ↦ keep n.id := by
    have hsliced : ∀ spec ∈ (w.slice keep).nodes, spec.explicitName?.isSome = true :=
      fun spec hspec ↦ hnamed spec (List.mem_of_mem_filter hspec)
    rw [nameNodes_eq_map hnamed, nameNodes_eq_map hsliced, slice, List.filter_map]
    rfl
  refine Graph.build_eq_ok_iff.mpr ⟨?_, fun e he ↦ ?_, order.filter keep, ?_, ?_⟩
  · rw [map_id_slice]
    exact hnodup.filter _
  · obtain ⟨he, hkept⟩ := List.mem_filter.mp he
    rw [Bool.and_eq_true] at hkept
    obtain ⟨hsource, htarget, hself⟩ := Graph.edgeError?_eq_none_iff.mp (hedges e he)
    rw [map_id_slice]
    exact Graph.edgeError?_eq_none_iff.mpr ⟨List.mem_filter.mpr ⟨hsource, hkept.1⟩,
      List.mem_filter.mpr ⟨htarget, hkept.2⟩, hself⟩
  · rw [map_id_slice, ends_slice]
    exact Digraph.topologicalOrder?_restricted hg.ends_mem_nodes hinitial horder
  · rw [hids, List.filterMap_filter, List.filter_filterMap]
    congr 1
    refine List.filterMap_congr fun id _ ↦ ?_
    exact filter_find?_id keep id

end Workflow

end FlowRouting
