import FlowRouting.Proofs.Digraph.Exhaustion

/-!
# Searching a part of a graph

Let a part of the nodes contain the source of every edge that leads into it. No edge then leads from
outside the part into it, so a search of the whole graph that is outside the part stays outside: as
far as the part is concerned nothing happens. Inside the part it does what a search of the part
alone does. So the topological order of the part is that of the whole graph with the other nodes
left out.

The two searches have different fuel, and both have enough; this is why the comparison carries along
how many nodes each of them has still to enter.
-/

namespace FlowRouting.Digraph

variable {α : Type}

/-- The edges between the nodes of a part. -/
def restricted (keep : α → Bool) (edges : List (α × α)) : List (α × α) :=
  edges.filter fun e ↦ keep e.1 && keep e.2

/-- A part contains the sources of the edges that lead into it. -/
def IsInitial (keep : α → Bool) (edges : List (α × α)) : Prop :=
  ∀ e ∈ edges, keep e.2 = true → keep e.1 = true

/-- The state of a search of the part alone agrees with that of a search of the whole graph. -/
private structure Search.Restricts (keep : α → Bool) (s s' : Search α) : Prop where
  mem_seen_iff : ∀ x, keep x = true → (x ∈ s'.seen ↔ x ∈ s.seen)
  left_eq : s'.left = s.left.filter keep

namespace Search.Restricts

variable {keep : α → Bool} {s s' t t' : Search α}

private theorem of_grows (h : Search.Restricts keep s s')
    (hgrows : Search.Grows (keep · = false) s t) : Search.Restricts keep t s' := by
  obtain ⟨added, hadded⟩ := hgrows
  refine ⟨fun x hx ↦ ?_, ?_⟩
  · rw [h.mem_seen_iff x hx, hadded.mem_seen_iff]
    refine ⟨Or.inr, fun hseen ↦ hseen.resolve_left fun hmem ↦ ?_⟩
    rw [hadded.property x hmem] at hx
    cases hx
  · have hnone : added.filter keep = [] :=
      List.filter_eq_nil_iff.mpr fun x hx ↦ by simp [hadded.property x hx]
    rw [h.left_eq, hadded.left_eq, List.filter_append, hnone, List.nil_append]

private theorem enter (h : Search.Restricts keep s s') (x : α) :
    Search.Restricts keep { s with seen := x :: s.seen } { s' with seen := x :: s'.seen } := by
  refine ⟨fun y hy ↦ ?_, h.left_eq⟩
  rw [List.mem_cons, List.mem_cons, h.mem_seen_iff y hy]

private theorem leave (h : Search.Restricts keep t t') {x : α} (hx : keep x = true) :
    Search.Restricts keep { t with left := x :: t.left } { t' with left := x :: t'.left } := by
  refine ⟨h.mem_seen_iff, ?_⟩
  show x :: t'.left = (x :: t.left).filter keep
  rw [List.filter_cons_of_pos hx, h.left_eq]

end Search.Restricts

/-! ## Two searches at once -/

variable [DecidableEq α] {keep : α → Bool} {nodes : List α} {edges : List (α × α)}

private theorem successors_restricted {x : α} (hx : keep x = true) :
    successors (restricted keep edges) x = (successors edges x).filter keep := by
  rw [successors, successors, restricted, List.filterMap_filter, List.filter_filterMap]
  refine List.filterMap_congr fun e _ ↦ ?_
  by_cases hsource : e.1 = x
  · rw [if_pos hsource, hsource, hx, Bool.true_and, Option.filter_some]
  · rw [if_neg hsource, ite_self, Option.filter_none]

private theorem grows_visit_outside (hkeep : IsInitial keep edges) (fuel : Nat) {x : α}
    (hx : keep x = false) (s : Search α) :
    Search.Grows (keep · = false) s (visit (successors edges) fuel s x) := by
  refine grows_visit (P := (keep · = false)) (fun y hy z hz ↦ ?_) fuel hx s
  rw [Bool.eq_false_iff] at hy ⊢
  exact fun h ↦ hy (hkeep (y, z) (mem_successors_iff.mp hz) h)

section Comparison

/-- From every two states that agree, a visit of the whole graph and a visit of the part come to
states that agree, if both have enough fuel. -/
private def VisitsAgree (keep : α → Bool) (nodes : List α) (edges : List (α × α)) (fuel fuel' : Nat)
    (x : α) : Prop :=
  ∀ s s' : Search α, s.unseen nodes < fuel → s'.unseen (nodes.filter keep) < fuel' →
    Search.Restricts keep s s' → Search.Restricts keep (visit (successors edges) fuel s x)
      (visit (successors (restricted keep edges)) fuel' s' x)

/-- Visits from nodes in a row agree: those from nodes outside the part are left out. -/
private theorem restricts_foldl (hkeep : IsInitial keep edges) {fuel fuel' : Nat} {xs : List α}
    (hvisits : ∀ x ∈ xs, keep x = true → VisitsAgree keep nodes edges fuel fuel' x)
    {s s' : Search α} (hfuel : s.unseen nodes < fuel)
    (hfuel' : s'.unseen (nodes.filter keep) < fuel') (h : Search.Restricts keep s s') :
    Search.Restricts keep (xs.foldl (visit (successors edges) fuel) s)
      ((xs.filter keep).foldl (visit (successors (restricted keep edges)) fuel') s') := by
  -- Fuel that is enough for the first visit is enough for the later ones.
  have hless : ∀ (next : α → List α) (n : Nat) (t : Search α) (x : α) (among : List α),
      (visit next n t x).unseen among ≤ t.unseen among := fun next n t x among ↦
    Search.unseen_le fun y hy ↦
      (grows_visit (P := fun _ ↦ True) (by simp) n trivial t).subset_seen hy
  induction xs generalizing s s' with
  | nil => exact h
  | cons x xs ih =>
    have hfuel₁ := Nat.lt_of_le_of_lt (hless (successors edges) fuel s x nodes) hfuel
    have htail : ∀ y ∈ xs, keep y = true → VisitsAgree keep nodes edges fuel fuel' y :=
      fun y hy ↦ hvisits y (List.mem_cons_of_mem _ hy)
    rw [List.foldl_cons]
    cases hx : keep x with
    | true =>
      rw [List.filter_cons_of_pos hx, List.foldl_cons]
      have hfuel₁' := Nat.lt_of_le_of_lt
        (hless (successors (restricted keep edges)) fuel' s' x (nodes.filter keep)) hfuel'
      exact ih htail hfuel₁ hfuel₁' (hvisits x List.mem_cons_self hx s s' hfuel hfuel' h)
    | false =>
      rw [List.filter_cons_of_neg (by simp [hx])]
      exact ih htail hfuel₁ hfuel' (h.of_grows (grows_visit_outside hkeep fuel hx s))

private theorem visitsAgree (hends : ∀ e ∈ edges, e.2 ∈ nodes) (hkeep : IsInitial keep edges)
    (fuel fuel' : Nat) {x : α} (hx : keep x = true) (hmem : x ∈ nodes) :
    VisitsAgree keep nodes edges fuel fuel' x := by
  induction fuel generalizing fuel' x with
  | zero => exact fun s s' hfuel ↦ absurd hfuel (Nat.not_lt_zero _)
  | succ fuel ih =>
    intro s s' hfuel hfuel' h
    obtain ⟨fuel', rfl⟩ := Nat.exists_eq_succ_of_ne_zero (Nat.ne_zero_of_lt hfuel')
    rw [visit, visit]
    by_cases hseen : x ∈ s.seen
    · rw [if_pos hseen, if_pos ((h.mem_seen_iff x hx).mpr hseen)]
      exact h
    · have hseen' : x ∉ s'.seen := fun hmem ↦ hseen ((h.mem_seen_iff x hx).mp hmem)
      have hentered := Search.unseen_enter_lt hmem hseen
      have hentered' := Search.unseen_enter_lt (List.mem_filter.mpr ⟨hmem, hx⟩) hseen'
      rw [if_neg hseen, if_neg hseen', successors_restricted hx]
      refine Search.Restricts.leave (restricts_foldl hkeep (fun y hy hkept ↦ ?_)
        (Nat.lt_of_lt_of_le hentered (Nat.le_of_lt_succ hfuel))
        (Nat.lt_of_lt_of_le hentered' (Nat.le_of_lt_succ hfuel')) (h.enter x)) hx
      exact ih fuel' hkept (hends (x, y) (mem_successors_iff.mp hy))

end Comparison

/-! ## The order of a part -/

/-- A part that contains the sources of the edges into it comes in the order of the whole graph. -/
theorem topologicalOrder?_restricted (hends : ∀ e ∈ edges, e.1 ∈ nodes ∧ e.2 ∈ nodes)
    (hkeep : IsInitial keep edges) {order : List α}
    (h : topologicalOrder? nodes edges = some order) :
    topologicalOrder? (nodes.filter keep) (restricted keep edges) = some (order.filter keep) := by
  obtain ⟨hacyclic, rfl⟩ := (topologicalOrder?_eq_some_iff hends).mp h
  have hends' : ∀ e ∈ restricted keep edges,
      e.1 ∈ nodes.filter keep ∧ e.2 ∈ nodes.filter keep := by
    intro e he
    obtain ⟨he, hkept⟩ := List.mem_filter.mp he
    rw [Bool.and_eq_true] at hkept
    exact ⟨List.mem_filter.mpr ⟨(hends e he).1, hkept.1⟩,
      List.mem_filter.mpr ⟨(hends e he).2, hkept.2⟩⟩
  rw [topologicalOrder?_eq_some_iff hends']
  refine ⟨hacyclic.mono (List.filter_sublist.subset), ?_⟩
  have hunseen : ∀ among : List α, Search.unseen among {} < among.length + 1 :=
    fun among ↦ Nat.lt_succ_of_le List.countP_le_length
  have hvisits : ∀ x ∈ nodes, keep x = true → VisitsAgree keep nodes edges (nodes.length + 1)
      ((nodes.filter keep).length + 1) x := fun x hx hkept ↦
    visitsAgree (fun e he ↦ (hends e he).2) hkeep _ _ hkept hx
  have hbegin : Search.Restricts keep ({} : Search α) ({} : Search α) := ⟨fun _ _ ↦ Iff.rfl, rfl⟩
  have hrestricts := restricts_foldl hkeep hvisits (hunseen nodes) (hunseen (nodes.filter keep))
    hbegin
  exact hrestricts.left_eq.symm

end FlowRouting.Digraph
