import FlowRouting.Proofs.Digraph.Exhaustion
import FlowRouting.Proofs.Graph.Building

/-!
# Ancestors

The ancestors of a node are searched for against the direction of the edges. The search is
exhaustive, so they are the nodes from which a way leads to the node; and as edges lead forward in
the topological order, so do ways, and all ancestors come before the node.
-/

namespace FlowRouting

private theorem Digraph.reaches_reversed_iff {α : Type} {edges : List (α × α)} {x y : α} :
    Reaches (reversed edges) x y ↔ Reaches edges y x := by
  have hedge : ∀ {es : List (α × α)} {a b : α}, (a, b) ∈ reversed es ↔ (b, a) ∈ es := by
    intro es a b
    rw [reversed, List.mem_map]
    constructor
    · rintro ⟨⟨c, d⟩, he, heq⟩
      cases heq
      exact he
    · exact fun he ↦ ⟨(b, a), he, rfl⟩
  constructor
  · intro h
    induction h with
    | edge he => exact .edge (hedge.mp he)
    | step he _ ih => exact ih.concat (hedge.mp he)
  · intro h
    induction h with
    | edge he => exact .edge (hedge.mpr he)
    | step he _ ih => exact ih.concat (hedge.mpr he)

namespace Graph

open FlowRouting.Digraph

variable {g : Graph} {w : Workflow} {id : String}

theorem mem_ends_of_mem {edges : List Edge} {e : Edge} (he : e ∈ edges) :
    (e.source, e.target) ∈ ends edges :=
  List.mem_map_of_mem (f := fun e : Edge ↦ (e.source, e.target)) he

theorem exists_edge_of_mem_ends {edges : List Edge} {x y : String} (h : (x, y) ∈ ends edges) :
    ∃ e ∈ edges, e.source = x ∧ e.target = y := by
  obtain ⟨e, he, heq⟩ := List.mem_map.mp h
  cases heq
  exact ⟨e, he, rfl, rfl⟩

/-- The ancestors of a node are the other nodes from which a way leads to it. -/
theorem mem_ancestors_iff {n : NamedNode} :
    n ∈ g.ancestors id ↔ n ∈ g.nodes ∧ n.id ≠ id ∧ Reaches (ends g.edges) n.id id := by
  rw [ancestors, List.mem_filter, decide_eq_true_eq, mem_reachable_iff, reaches_reversed_iff]

namespace Represents

theorem nodup_nodes (h : g.Represents w) : g.nodes.Nodup :=
  List.Nodup.of_map _ h.nodup_order

theorem ends_mem_nodes (h : g.Represents w) :
    ∀ e ∈ ends w.edges, e.1 ∈ w.nodes.map NodeSpec.id ∧ e.2 ∈ w.nodes.map NodeSpec.id := by
  rintro ⟨x, y⟩ hmem
  obtain ⟨e, he, rfl, rfl⟩ := exists_edge_of_mem_ends hmem
  exact h.ends_mem e he

theorem isForward (h : g.Represents w) : IsForward g.order (ends g.edges) := by
  rintro ⟨x, y⟩ hmem
  rw [h.edges_eq] at hmem
  obtain ⟨e, he, rfl, rfl⟩ := exists_edge_of_mem_ends hmem
  exact h.forward e he

theorem mem_map_id_ancestors_iff (h : g.Represents w) {other : String} :
    other ∈ (g.ancestors id).map NamedNode.id ↔ Reaches (ends g.edges) other id := by
  constructor
  · intro hmem
    obtain ⟨n, hn, rfl⟩ := List.mem_map.mp hmem
    exact (mem_ancestors_iff.mp hn).2.2
  · intro hreach
    obtain ⟨z, he⟩ := hreach.exists_ends.1
    rw [h.edges_eq] at he
    have hmem := h.mem_order_iff.mpr (h.ends_mem_nodes _ he).1
    obtain ⟨n, hn, rfl⟩ := List.mem_map.mp hmem
    have hne : n.id ≠ id := fun heq ↦
      isAcyclic_of_isForward h.isForward id (heq ▸ hreach)
    exact List.mem_map_of_mem (mem_ancestors_iff.mpr ⟨hn, hne, hreach⟩)

theorem notMem_map_id_ancestors_of_reaches (h : g.Represents w) {other : String}
    (hreach : Reaches (ends g.edges) id other) :
    other ∉ (g.ancestors id).map NamedNode.id := fun hmem ↦
  isAcyclic_of_isForward h.isForward id (hreach.trans (h.mem_map_id_ancestors_iff.mp hmem))

theorem ancestors_eq_nil (h : g.Represents w) (hid : id ∉ w.nodes.map NodeSpec.id) :
    g.ancestors id = [] := by
  rw [List.eq_nil_iff_forall_not_mem]
  intro n hn
  obtain ⟨z, he⟩ := (mem_ancestors_iff.mp hn).2.2.exists_ends.2
  rw [h.edges_eq] at he
  exact hid (h.ends_mem_nodes _ he).2

theorem idxOf_lt_of_mem_ancestors (h : g.Represents w) {other : String}
    (hmem : other ∈ (g.ancestors id).map NamedNode.id) :
    g.order.idxOf other < g.order.idxOf id :=
  idxOf_lt_of_reaches h.isForward (h.mem_map_id_ancestors_iff.mp hmem)

theorem source_mem_ancestors (h : g.Represents w) {e : Edge} (he : e ∈ g.incoming id) :
    e.source ∈ (g.ancestors id).map NamedNode.id := by
  obtain ⟨hmem, rfl⟩ := mem_incoming_iff.mp he
  exact h.mem_map_id_ancestors_iff.mpr (.edge (mem_ends_of_mem hmem))

end Represents

/-- **The ancestors of a node are the other nodes from which a way leads to it**, each of them once
and in topological order; what is no node has none. So the ancestors of an ancestor are ancestors,
and neither the node itself nor a node that it leads to is one. -/
theorem ancestors_exact (hbuild : build w = .ok g) (id : String) :
    (∀ other, other ∈ (g.ancestors id).map NamedNode.id ↔
      other ∈ w.nodes.map NodeSpec.id ∧ other ≠ id ∧ Reaches (ends w.edges) other id) ∧
    ((g.ancestors id).map NamedNode.id).Nodup ∧
    ((g.ancestors id).map NamedNode.id).Sublist g.order ∧
    (id ∉ w.nodes.map NodeSpec.id → g.ancestors id = []) ∧
    (∀ above ∈ (g.ancestors id).map NamedNode.id,
      (g.ancestors above).map NamedNode.id ⊆ (g.ancestors id).map NamedNode.id) ∧
    id ∉ (g.ancestors id).map NamedNode.id ∧
    ∀ below, Reaches (ends w.edges) id below → below ∉ (g.ancestors id).map NamedNode.id := by
  have h := represents_of_build hbuild
  have hsublist : ((g.ancestors id).map NamedNode.id).Sublist g.order :=
    (g.sublist_ancestors id).map NamedNode.id
  have hself : id ∉ (g.ancestors id).map NamedNode.id := fun hmem ↦
    isAcyclic_of_isForward h.isForward id (h.mem_map_id_ancestors_iff.mp hmem)
  rw [← h.edges_eq]
  refine ⟨fun other ↦ ?_, h.nodup_order.sublist hsublist, hsublist, h.ancestors_eq_nil,
    fun above habove other hother ↦ ?_, hself,
    fun below hreach ↦ h.notMem_map_id_ancestors_of_reaches hreach⟩
  · constructor
    · intro hmem
      exact ⟨h.mem_order_iff.mp (hsublist.mem hmem), fun heq ↦ hself (heq ▸ hmem),
        h.mem_map_id_ancestors_iff.mp hmem⟩
    · rintro ⟨-, -, hreach⟩
      exact h.mem_map_id_ancestors_iff.mpr hreach
  · rw [h.mem_map_id_ancestors_iff] at habove hother ⊢
    exact hother.trans habove

/-! ### Two ways, one of them doubled -/

/-- Two ways lead to a reader, and from it to a sink; one edge is there twice. -/
def twoWays : Workflow where
  id := Uuid.nil
  name := "two ways"
  nodes := ["sink", "reader", "left", "right", "top", "apart"].map fun id ↦
    { id, nodeType := "text" }
  edges :=
    [⟨"left", "reader", none, none⟩, ⟨"top", "left", none, none⟩, ⟨"top", "right", none, none⟩,
      ⟨"right", "reader", none, none⟩, ⟨"top", "left", none, none⟩,
      ⟨"reader", "sink", none, none⟩]

def twoWaysGraph : Graph where
  nodes :=
    ["apart", "top", "right", "left", "reader", "sink"].filterMap fun id ↦
      (nameNodes [] twoWays.nodes).find? (·.id == id)
  edges := twoWays.edges

private theorem build_twoWays : build twoWays = .ok twoWaysGraph := rfl

/-- The reader has three ancestors, in this order, and what is no node has none. -/
theorem ancestors_exact_twoWays :
    build twoWays = .ok twoWaysGraph ∧
      (∀ other, other ∈ (twoWaysGraph.ancestors "reader").map NamedNode.id ↔
        other ∈ twoWays.nodes.map NodeSpec.id ∧ other ≠ "reader" ∧
          Reaches (ends twoWays.edges) other "reader") ∧
      (twoWaysGraph.ancestors "reader").map NamedNode.id = ["top", "right", "left"] ∧
      "sink" ∉ (twoWaysGraph.ancestors "reader").map NamedNode.id ∧
      twoWaysGraph.ancestors "nowhere" = [] := by
  obtain ⟨hmem, -, -, -, -, -, hbelow⟩ := ancestors_exact build_twoWays "reader"
  obtain ⟨-, -, -, hnowhere, -⟩ := ancestors_exact build_twoWays "nowhere"
  exact ⟨build_twoWays, hmem, by decide +kernel, hbelow "sink" (.edge (by decide)),
    hnowhere (by decide)⟩

end Graph

end FlowRouting
