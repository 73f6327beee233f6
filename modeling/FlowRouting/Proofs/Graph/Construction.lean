import FlowRouting.Proofs.Fallible
import FlowRouting.Proofs.Graph.Ancestors

/-!
# Which workflows have a graph

Building fails on a repeated id, on an edge that does not join two different nodes, and on a cycle.
It fails on nothing else: a workflow that passes the checks before the search has a graph exactly if
no way along its edges leads from a node back to it, and the order of the graph has all nodes, with
every edge leading forward.
-/

namespace FlowRouting

open FlowRouting.Digraph

/-- The ids of the nodes are distinct, and every edge joins two different nodes. -/
structure Workflow.IsWired (w : Workflow) : Prop where
  nodup_ids : (w.nodes.map NodeSpec.id).Nodup
  source_mem : ∀ e ∈ w.edges, e.source ∈ w.nodes.map NodeSpec.id
  target_mem : ∀ e ∈ w.edges, e.target ∈ w.nodes.map NodeSpec.id
  source_ne_target : ∀ e ∈ w.edges, e.source ≠ e.target

namespace Workflow.IsWired

variable {w : Workflow}

theorem edgeError?_eq_none (h : w.IsWired) {e : Edge} (he : e ∈ w.edges) :
    Graph.edgeError? (w.nodes.map NodeSpec.id) e = none :=
  Graph.edgeError?_eq_none_iff.mpr
    ⟨h.source_mem e he, h.target_mem e he, h.source_ne_target e he⟩

theorem ends_mem_nodes (h : w.IsWired) :
    ∀ e ∈ Graph.ends w.edges, e.1 ∈ w.nodes.map NodeSpec.id ∧ e.2 ∈ w.nodes.map NodeSpec.id := by
  rintro ⟨x, y⟩ hmem
  obtain ⟨e, he, rfl, rfl⟩ := Graph.exists_edge_of_mem_ends hmem
  exact ⟨h.source_mem e he, h.target_mem e he⟩

theorem build_eq (h : w.IsWired) :
    Graph.build w =
      match topologicalOrder? (w.nodes.map NodeSpec.id) (Graph.ends w.edges) with
      | none => .error .cyclicDependency
      | some order =>
        .ok ⟨order.filterMap fun id ↦ (nameNodes [] w.nodes).find? (·.id == id), w.edges⟩ := by
  have hids : Graph.firstRepeated? [] (w.nodes.map NodeSpec.id) = none :=
    Graph.firstRepeated?_eq_none_iff.mpr ⟨h.nodup_ids, fun _ _ ↦ List.not_mem_nil⟩
  have hedges : w.edges.findSome? (Graph.edgeError? (w.nodes.map NodeSpec.id)) = none :=
    List.findSome?_eq_none_iff.mpr fun _ he ↦ h.edgeError?_eq_none he
  rw [Graph.build, hids, hedges]
  rfl

theorem topologicalOrder?_eq_none_iff (h : w.IsWired) :
    topologicalOrder? (w.nodes.map NodeSpec.id) (Graph.ends w.edges) = none ↔
      ¬IsAcyclic (Graph.ends w.edges) := by
  rw [← Option.not_isSome_iff_eq_none, not_iff_not, Option.isSome_iff_exists]
  constructor
  · rintro ⟨order, horder⟩
    exact ((topologicalOrder?_eq_some_iff h.ends_mem_nodes).mp horder).1
  · intro hacyclic
    exact ⟨_, (topologicalOrder?_eq_some_iff h.ends_mem_nodes).mpr ⟨hacyclic, rfl⟩⟩

theorem build_eq_cyclicDependency_iff (h : w.IsWired) :
    Graph.build w = .error .cyclicDependency ↔ ¬IsAcyclic (Graph.ends w.edges) := by
  rw [← h.topologicalOrder?_eq_none_iff, h.build_eq]
  split
  · next hnone => exact iff_of_true rfl hnone
  · next order horder =>
    rw [horder]
    exact iff_of_false nofun nofun

theorem exists_build_iff (h : w.IsWired) :
    (∃ g, Graph.build w = .ok g) ↔ IsAcyclic (Graph.ends w.edges) := by
  rw [← not_iff_not, ← h.topologicalOrder?_eq_none_iff, h.build_eq]
  split
  · next hnone => exact iff_of_true nofun hnone
  · next order horder =>
    rw [horder]
    exact iff_of_false (not_not.mpr ⟨_, rfl⟩) nofun

end Workflow.IsWired

namespace Graph

private theorem isWired_of_build {w : Workflow} {g : Graph} (h : build w = .ok g) : w.IsWired := by
  obtain ⟨hnodup, hedges, _⟩ := build_eq_ok_iff.mp h
  have hends := fun e he ↦ edgeError?_eq_none_iff.mp (hedges e he)
  exact ⟨hnodup, fun e he ↦ (hends e he).1, fun e he ↦ (hends e he).2.1,
    fun e he ↦ (hends e he).2.2⟩

/-- **A workflow has a graph exactly if its ids are distinct, its edges join different nodes, and no
way along them leads from a node back to it**; the order of the graph then has the nodes of the
workflow, every edge leading forward. Behind the checks of ids and edges, a cycle is the one thing
that building fails on. -/
theorem build_exact (w : Workflow) :
    ((∃ g, build w = .ok g) ↔ w.IsWired ∧ IsAcyclic (ends w.edges)) ∧
      (∀ g, build w = .ok g →
        g.order.Perm (w.nodes.map NodeSpec.id) ∧
          ∀ e ∈ w.edges, g.order.idxOf e.source < g.order.idxOf e.target) ∧
      (w.IsWired → (build w = .error .cyclicDependency ↔ ¬IsAcyclic (ends w.edges))) := by
  refine ⟨⟨?_, ?_⟩, ?_, Workflow.IsWired.build_eq_cyclicDependency_iff⟩
  · rintro ⟨g, hg⟩
    have hwired := isWired_of_build hg
    exact ⟨hwired, hwired.exists_build_iff.mp ⟨g, hg⟩⟩
  · rintro ⟨hwired, hacyclic⟩
    exact hwired.exists_build_iff.mpr hacyclic
  · intro g hg
    have hrepresents := represents_of_build hg
    exact ⟨hrepresents.order_perm, hrepresents.forward⟩

/-! ### Two components, and a cycle in one of them

The author put the reader before what it reads, and one edge twice. -/

/-- A diamond from `top` to `reader`, and a pair apart from it. -/
def diamondAndPair : Workflow where
  id := Uuid.nil
  name := "diamond and pair"
  nodes :=
    ["reader", "left", "right", "after", "top", "before"].map fun id ↦ { id, nodeType := "text" }
  edges :=
    [⟨"left", "reader", none, none⟩, ⟨"top", "left", none, none⟩, ⟨"top", "right", none, none⟩,
      ⟨"right", "reader", none, none⟩, ⟨"top", "left", none, none⟩,
      ⟨"before", "after", none, none⟩]

/-- The same with an edge from the end of the diamond to one of its sides. -/
def diamondWithCycle : Workflow :=
  { diamondAndPair with
    edges := diamondAndPair.edges ++ [⟨"reader", "right", none, none⟩] }

private theorem isWired_diamondWithCycle : diamondWithCycle.IsWired := by
  refine ⟨?_, ?_, ?_, ?_⟩ <;> decide

private theorem reaches_reader_reader : Reaches (ends diamondWithCycle.edges) "reader" "reader" :=
  .step (y := "right") (by decide) (.edge (by decide))

/-- The first has a graph, in whose order both components are, and the second has none. -/
theorem build_exact_diamond :
    (∃ g, build diamondAndPair = .ok g ∧
      g.order.Perm ["reader", "left", "right", "after", "top", "before"] ∧
      g.order.idxOf "top" < g.order.idxOf "left") ∧
    diamondWithCycle.IsWired ∧ build diamondWithCycle = .error .cyclicDependency := by
  have hbuilt : (build diamondAndPair).isOk = true := by decide
  obtain ⟨g, hg⟩ := exists_eq_ok_of_isOk hbuilt
  obtain ⟨hperm, hforward⟩ := (build_exact diamondAndPair).2.1 g hg
  refine ⟨⟨g, hg, hperm, hforward ⟨"top", "left", none, none⟩ (by decide)⟩,
    isWired_diamondWithCycle, ?_⟩
  refine ((build_exact diamondWithCycle).2.2 isWired_diamondWithCycle).mpr fun hacyclic ↦ ?_
  exact hacyclic "reader" reaches_reader_reader

end Graph

end FlowRouting
