import FlowRouting.Proofs.Digraph.Component

/-!
# Graphs in which a cycle is found

Every cycle runs within a component, and the search comes to all of them; so a component is found
exactly if there is a cycle. What is found is a whole component, and a way leads from each of its
nodes to each, itself included.
-/

namespace FlowRouting.Digraph

variable {α : Type} {edges edges' : List (α × α)} {component : List α}

theorem Leads.mono (hsubset : edges ⊆ edges') {x y : α} (h : Leads edges x y) :
    Leads edges' x y :=
  h.imp_right fun h ↦ h.mono hsubset

/-! ## Cyclic components -/

namespace IsComponent

theorem congr (h : IsComponent edges component) (hsubset : edges ⊆ edges')
    (hsubset' : edges' ⊆ edges) : IsComponent edges' component where
  ne_nil := h.ne_nil
  mem_iff x hx y := by
    rw [h.mem_iff x hx]
    exact ⟨fun ⟨honward, hback⟩ ↦ ⟨honward.mono hsubset, hback.mono hsubset⟩,
      fun ⟨honward, hback⟩ ↦ ⟨honward.mono hsubset', hback.mono hsubset'⟩⟩

theorem of_perm (h : IsComponent edges component) {component' : List α}
    (hperm : component.Perm component') : IsComponent edges component' where
  ne_nil hnil := h.ne_nil (List.perm_nil.mp (hnil ▸ hperm))
  mem_iff x hx y := by rw [← hperm.mem_iff, h.mem_iff x (hperm.mem_iff.mpr hx)]

theorem leads (h : IsComponent edges component) {x y : α} (hx : x ∈ component)
    (hy : y ∈ component) : Leads edges x y :=
  ((h.mem_iff x hx y).mp hy).1

variable [DecidableEq α]

/-- In a component, all nodes are on a cycle or none is. -/
theorem isCyclic_iff (h : IsComponent edges component) (hnodup : component.Nodup) {x : α}
    (hx : x ∈ component) : isCyclic edges component = true ↔ Reaches edges x x := by
  by_cases hsingle : component = [x]
  · subst hsingle
    rw [isCyclic, decide_eq_true_eq]
    refine ⟨.edge, fun hround ↦ ?_⟩
    cases hround with
    | edge he => exact he
    | step he hrest =>
      have hmem := (h.mem_iff x hx _).mpr ⟨Or.inr (.edge he), Or.inr hrest⟩
      rwa [List.mem_singleton.mp hmem] at he
  · obtain ⟨y, hy, hne⟩ := ((hnodup.ne_singleton_iff x).mp hsingle).resolve_left h.ne_nil
    have honward := (h.leads hx hy).resolve_left (Ne.symm hne)
    have hback := (h.leads hy hx).resolve_left hne
    refine iff_of_true ?_ (honward.trans hback)
    match component, hsingle with
    | [z], hsingle => exact absurd (by rw [List.mem_singleton.mp hx]) hsingle
    | _ :: _ :: _, _ => simp [isCyclic]

theorem reaches (h : IsComponent edges component) (hnodup : component.Nodup)
    (hcyclic : isCyclic edges component = true) {x y : α} (hx : x ∈ component)
    (hy : y ∈ component) : Reaches edges x y := by
  rcases h.leads hx hy with rfl | hreach
  · exact (h.isCyclic_iff hnodup hx).mp hcyclic
  · exact hreach

end IsComponent

/-! ## Search -/

variable [DecidableEq α] {nodes : List α}

private theorem components_eraseDups (hends : ∀ e ∈ edges, e.2 ∈ nodes) :
    (∀ c ∈ components nodes edges.eraseDups.reverse, IsComponent edges c ∧ c.Nodup) ∧
      ∀ x ∈ nodes, ∃ c ∈ components nodes edges.eraseDups.reverse, x ∈ c := by
  have hsubset : edges ⊆ edges.eraseDups.reverse := fun e he ↦
    List.mem_reverse.mpr (List.mem_eraseDups.mpr he)
  have hsubset' : edges.eraseDups.reverse ⊆ edges := fun e he ↦
    List.mem_eraseDups.mp (List.mem_reverse.mp he)
  obtain ⟨hcomponent, hmem, hnodup⟩ :=
    @components_exact α edges.eraseDups.reverse _ nodes fun e he ↦ hends e (hsubset' he)
  exact ⟨fun c hc ↦ ⟨(hcomponent c hc).congr hsubset' hsubset,
    (List.nodup_flatten.mp hnodup).1 c hc⟩, hmem⟩

/-- What is found is a component, and each of its nodes reaches each. -/
theorem isComponent_of_findCycle? (hends : ∀ e ∈ edges, e.2 ∈ nodes)
    (h : findCycle? nodes edges = some component) :
    IsComponent edges component ∧ component.Nodup ∧
      ∀ x ∈ component, ∀ y ∈ component, Reaches edges x y := by
  obtain ⟨hc, hnodup⟩ := (components_eraseDups hends).1 component (List.mem_of_find?_eq_some h)
  exact ⟨hc, hnodup, fun x hx y hy ↦ hc.reaches hnodup (List.find?_some h) hx hy⟩

/-- No cycle is found exactly if there is none. -/
theorem findCycle?_eq_none_iff (hends : ∀ e ∈ edges, e.2 ∈ nodes) :
    findCycle? nodes edges = none ↔ IsAcyclic edges := by
  obtain ⟨hcomponent, hmem⟩ := components_eraseDups hends
  rw [findCycle?, List.find?_eq_none]
  constructor
  · intro hnone x hround
    obtain ⟨z, hz⟩ := hround.exists_ends.2
    obtain ⟨c, hc, hx⟩ := hmem x (hends _ hz)
    exact hnone c hc (((hcomponent c hc).1.isCyclic_iff (hcomponent c hc).2 hx).mpr hround)
  · intro hacyclic c hc hcyclic
    obtain ⟨x, hx⟩ := List.exists_mem_of_ne_nil c (hcomponent c hc).1.ne_nil
    exact hacyclic x ((hcomponent c hc).1.reaches (hcomponent c hc).2 hcyclic hx hx)

end FlowRouting.Digraph
