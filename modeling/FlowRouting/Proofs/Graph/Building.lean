import FlowRouting.Proofs.Digraph.Search
import FlowRouting.Proofs.Graph.Names

/-!
# What a built graph is

`Graph.build` succeeds for a workflow whose ids are distinct and whose edges join two different
nodes, and then arranges the nodes along a topological order. `Graph.Represents` collects what later
proofs need of the result, so that none of them opens `Graph.build` again. The order itself is only
known to be a permutation along which edges lead forward; nothing depends on which one it is.
-/

namespace FlowRouting

/-! ## Nodes along a list of ids -/

section Arrangement

variable {nodes : List NamedNode} {order : List String}

theorem find?_id_of_mem (hnodup : (nodes.map NamedNode.id).Nodup) {n : NamedNode}
    (hn : n ∈ nodes) : nodes.find? (·.id == n.id) = some n := by
  induction nodes with
  | nil => exact absurd hn List.not_mem_nil
  | cons m nodes ih =>
    rw [List.map_cons, List.nodup_cons] at hnodup
    rcases List.mem_cons.mp hn with rfl | hn
    · rw [List.find?_cons_of_pos (by simp)]
    · have hne : m.id ≠ n.id := fun h ↦ hnodup.1 (h ▸ List.mem_map_of_mem hn)
      rw [List.find?_cons_of_neg (by simpa using hne), ih hnodup.2 hn]

private theorem filterMap_find?_ids (hnodup : (nodes.map NamedNode.id).Nodup) :
    (nodes.map NamedNode.id).filterMap (fun id ↦ nodes.find? (·.id == id)) = nodes := by
  rw [List.filterMap_map]
  have hfind : ∀ n ∈ nodes, ((fun id ↦ nodes.find? (·.id == id)) ∘ NamedNode.id) n = some n :=
    fun n hn ↦ find?_id_of_mem hnodup hn
  rw [List.filterMap_congr hfind, List.filterMap_some]

private theorem perm_arranged (hnodup : (nodes.map NamedNode.id).Nodup)
    (horder : order.Perm (nodes.map NamedNode.id)) :
    (order.filterMap fun id ↦ nodes.find? (·.id == id)).Perm nodes := by
  have h := horder.filterMap fun id ↦ nodes.find? (·.id == id)
  rwa [filterMap_find?_ids hnodup] at h

private theorem map_id_arranged (h : ∀ id ∈ order, id ∈ nodes.map NamedNode.id) :
    (order.filterMap fun id ↦ nodes.find? (·.id == id)).map NamedNode.id = order := by
  induction order with
  | nil => rfl
  | cons id order ih =>
    obtain ⟨n, hn, hid⟩ := List.mem_map.mp (h id List.mem_cons_self)
    have hsome : (nodes.find? (·.id == id)).isSome :=
      List.find?_isSome.mpr ⟨n, hn, by simp [hid]⟩
    obtain ⟨m, hm⟩ := Option.isSome_iff_exists.mp hsome
    have hmid : m.id = id := by simpa using List.find?_some hm
    have htail := ih fun id hid ↦ h id (List.mem_cons_of_mem _ hid)
    rw [List.filterMap_cons, hm]
    show m.id :: _ = id :: order
    rw [hmid, htail]

end Arrangement

namespace Graph

/-! ## The checks of building -/

theorem firstRepeated?_eq_none_iff {before ids : List String} :
    firstRepeated? before ids = none ↔ ids.Nodup ∧ ∀ id ∈ ids, id ∉ before := by
  induction ids generalizing before with
  | nil => simp [firstRepeated?]
  | cons id ids ih =>
    rw [firstRepeated?]
    by_cases hid : id ∈ before
    · rw [if_pos hid]
      simp [hid]
    · rw [if_neg hid, ih, List.nodup_cons]
      constructor
      · rintro ⟨hnodup, hfresh⟩
        refine ⟨⟨fun h ↦ hfresh id h List.mem_cons_self, hnodup⟩, fun x hx ↦ ?_⟩
        rcases List.mem_cons.mp hx with rfl | hx
        · exact hid
        · exact fun h ↦ hfresh x hx (List.mem_cons_of_mem _ h)
      · rintro ⟨⟨hnot, hnodup⟩, hfresh⟩
        refine ⟨hnodup, fun x hx h ↦ ?_⟩
        rcases List.mem_cons.mp h with rfl | h
        · exact hnot hx
        · exact hfresh x (List.mem_cons_of_mem _ hx) h

theorem edgeError?_eq_none_iff {ids : List String} {e : Edge} :
    edgeError? ids e = none ↔ e.source ∈ ids ∧ e.target ∈ ids ∧ e.source ≠ e.target := by
  rw [edgeError?]
  by_cases hsource : e.source ∈ ids
  · by_cases htarget : e.target ∈ ids
    · by_cases hself : e.source = e.target <;> simp [hsource, htarget, hself]
    · simp [hsource, htarget]
  · simp [hsource]

/-- Building succeeds exactly if the ids are distinct, the edges are sound and there is a
topological order, and the graph is then this one. -/
theorem build_eq_ok_iff {w : Workflow} {g : Graph} :
    build w = .ok g ↔ (w.nodes.map NodeSpec.id).Nodup ∧
      (∀ e ∈ w.edges, edgeError? (w.nodes.map NodeSpec.id) e = none) ∧
      ∃ order, Digraph.topologicalOrder? (w.nodes.map NodeSpec.id) (ends w.edges) = some order ∧
        g = ⟨order.filterMap fun id ↦ (nameNodes [] w.nodes).find? (·.id == id), w.edges⟩ := by
  have hnodup : firstRepeated? [] (w.nodes.map NodeSpec.id) = none ↔
      (w.nodes.map NodeSpec.id).Nodup := by
    simp [firstRepeated?_eq_none_iff]
  rw [← hnodup, ← List.findSome?_eq_none_iff, build]
  cases firstRepeated? [] (w.nodes.map NodeSpec.id) with
  | some id => simp [bind, Except.bind, throw, throwThe, MonadExceptOf.throw]
  | none =>
    cases w.edges.findSome? (edgeError? (w.nodes.map NodeSpec.id)) with
    | some e => simp [bind, Except.bind, throw, throwThe, MonadExceptOf.throw]
    | none =>
      cases Digraph.topologicalOrder? (w.nodes.map NodeSpec.id) (ends w.edges) with
      | none => simp [throw, throwThe, MonadExceptOf.throw]
      | some order => simp [pure, Except.pure, eq_comm]

/-! ## Graphs of workflows -/

/-- A graph has the named nodes and the edges of a workflow, in an order in which every edge leads
forward. -/
structure Represents (g : Graph) (w : Workflow) : Prop where
  edges_eq : g.edges = w.edges
  nodes_perm : g.nodes.Perm (nameNodes [] w.nodes)
  nodup_ids : (w.nodes.map NodeSpec.id).Nodup
  ends_mem : ∀ e ∈ w.edges,
    e.source ∈ w.nodes.map NodeSpec.id ∧ e.target ∈ w.nodes.map NodeSpec.id
  forward : ∀ e ∈ w.edges, g.order.idxOf e.source < g.order.idxOf e.target

theorem represents_of_build {w : Workflow} {g : Graph} (h : build w = .ok g) :
    g.Represents w := by
  obtain ⟨hnodup, hedges, order, horder, rfl⟩ := build_eq_ok_iff.mp h
  have hmem : ∀ e ∈ w.edges,
      e.source ∈ w.nodes.map NodeSpec.id ∧ e.target ∈ w.nodes.map NodeSpec.id := by
    intro e he
    obtain ⟨hsource, htarget, _⟩ := edgeError?_eq_none_iff.mp (hedges e he)
    exact ⟨hsource, htarget⟩
  have htargets : ∀ e ∈ ends w.edges, e.2 ∈ w.nodes.map NodeSpec.id := by
    intro e he
    obtain ⟨e', he', rfl⟩ := List.mem_map.mp he
    exact (hmem e' he').2
  -- Up to the order, the arranged nodes are the named nodes: both have the same ids.
  have hperm := Digraph.perm_of_topologicalOrder? horder hnodup htargets
  rw [← map_id_nameNodes [] w.nodes] at hperm
  refine ⟨rfl, perm_arranged ?_ hperm, hnodup, hmem, ?_⟩
  · rw [map_id_nameNodes]
    exact hnodup
  · intro e he
    rw [Graph.order, map_id_arranged fun id hid ↦ hperm.mem_iff.mp hid]
    exact Digraph.isForward_of_topologicalOrder? horder (e.source, e.target)
      (List.mem_map_of_mem (f := fun e : Edge ↦ (e.source, e.target)) he)

namespace Represents

variable {g : Graph} {w : Workflow}

theorem order_perm (h : g.Represents w) : g.order.Perm (w.nodes.map NodeSpec.id) := by
  rw [← map_id_nameNodes [] w.nodes]
  exact h.nodes_perm.map _

theorem nodup_order (h : g.Represents w) : g.order.Nodup :=
  h.order_perm.nodup_iff.mpr h.nodup_ids

theorem mem_order_iff (h : g.Represents w) {id : String} :
    id ∈ g.order ↔ id ∈ w.nodes.map NodeSpec.id :=
  h.order_perm.mem_iff

theorem spec_mem (h : g.Represents w) {n : NamedNode} (hn : n ∈ g.nodes) : n.spec ∈ w.nodes := by
  rw [← map_spec_nameNodes [] w.nodes]
  exact List.mem_map_of_mem (h.nodes_perm.mem_iff.mp hn)

/-- No two nodes of a graph have the same id. -/
theorem eq_of_id_eq (h : g.Represents w) {m n : NamedNode} (hm : m ∈ g.nodes) (hn : n ∈ g.nodes)
    (hid : m.id = n.id) : m = n :=
  List.inj_on_of_nodup_map h.nodup_order hm hn hid

end Represents

/-! ## Looking around -/

variable {g : Graph} {id : String}

theorem mem_incoming_iff {e : Edge} : e ∈ g.incoming id ↔ e ∈ g.edges ∧ e.target = id := by
  rw [incoming, List.mem_filter, beq_iff_eq]

theorem sublist_ancestors (g : Graph) (id : String) : (g.ancestors id).Sublist g.nodes :=
  List.filter_sublist

theorem mem_nodes_of_mem_ancestors {n : NamedNode} (h : n ∈ g.ancestors id) : n ∈ g.nodes :=
  (g.sublist_ancestors id).subset h

end Graph

end FlowRouting
