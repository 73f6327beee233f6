import Mathlib.Data.List.Nodup
import Mathlib.Data.List.Perm.Basic
import FlowRouting.Digraph.Basic

/-!
# What a depth-first search lists

A search that goes on from one state to another puts newly left nodes in front of those it had left
before, and enters exactly the nodes that it leaves. Both facts survive composition, so they are one
relation, `Search.Grows`, which is proved of a visit by induction on the fuel and of a search by
composing visits. It does not depend on how much fuel there is: a visit without fuel changes
nothing.

From this relation alone follows that a topological order is a permutation of the nodes. That its
edges lead forward is checked when it is computed.
-/

namespace FlowRouting.Digraph

variable {α : Type}

/-! ## Ways -/

theorem Reaches.concat {edges : List (α × α)} {x y z : α} (h : Reaches edges x y)
    (he : (y, z) ∈ edges) : Reaches edges x z := by
  induction h with
  | edge h => exact .step h (.edge he)
  | step h _ ih => exact .step h (ih he)

/-! ## Growing searches -/

/-- A search went on from `s` to `t` and has meanwhile left the nodes of some list, all of which
have a property `P`. -/
structure Search.GrowsBy (P : α → Prop) (s t : Search α) (added : List α) : Prop where
  left_eq : t.left = added ++ s.left
  nodup : added.Nodup
  fresh : ∀ x ∈ added, x ∉ s.seen
  mem_seen_iff : ∀ x, x ∈ t.seen ↔ x ∈ added ∨ x ∈ s.seen
  property : ∀ x ∈ added, P x

/-- A search went on from `s` to `t` through nodes that have a property. -/
def Search.Grows (P : α → Prop) (s t : Search α) : Prop :=
  ∃ added, Search.GrowsBy P s t added

namespace Search.GrowsBy

variable {P : α → Prop} {s t u : Search α} {a b : List α}

theorem refl (P : α → Prop) (s : Search α) : Search.GrowsBy P s s [] :=
  ⟨by simp, List.nodup_nil, by simp, by simp, by simp⟩

theorem trans (ha : Search.GrowsBy P s t a) (hb : Search.GrowsBy P t u b) :
    Search.GrowsBy P s u (b ++ a) := by
  have hdisjoint : List.Disjoint b a := fun x hxb hxa ↦
    hb.fresh x hxb ((ha.mem_seen_iff x).mpr (Or.inl hxa))
  refine ⟨?_, List.Nodup.append hb.nodup ha.nodup hdisjoint, ?_, ?_, ?_⟩
  · rw [hb.left_eq, ha.left_eq, List.append_assoc]
  · intro x hx
    rcases List.mem_append.mp hx with hx | hx
    · exact fun hs ↦ hb.fresh x hx ((ha.mem_seen_iff x).mpr (Or.inr hs))
    · exact ha.fresh x hx
  · intro x
    rw [hb.mem_seen_iff, ha.mem_seen_iff, List.mem_append, or_assoc]
  · intro x hx
    rcases List.mem_append.mp hx with hx | hx
    · exact hb.property x hx
    · exact ha.property x hx

theorem enclose {x : α} (hx : x ∉ s.seen) (hP : P x)
    (ha : Search.GrowsBy P { s with seen := x :: s.seen } t a) :
    Search.GrowsBy P s { t with left := x :: t.left } (x :: a) := by
  have hxa : x ∉ a := fun hmem ↦ ha.fresh x hmem List.mem_cons_self
  refine ⟨?_, List.nodup_cons.mpr ⟨hxa, ha.nodup⟩, ?_, ?_, ?_⟩
  · rw [ha.left_eq, List.cons_append]
  · intro y hy
    rcases List.mem_cons.mp hy with rfl | hy
    · exact hx
    · exact fun hs ↦ ha.fresh y hy (List.mem_cons_of_mem _ hs)
  · intro y
    rw [ha.mem_seen_iff, List.mem_cons, List.mem_cons, or_left_comm, or_assoc]
  · intro y hy
    rcases List.mem_cons.mp hy with rfl | hy
    · exact hP
    · exact ha.property y hy

theorem subset_seen (h : Search.GrowsBy P s t a) {x : α} (hx : x ∈ s.seen) : x ∈ t.seen :=
  (h.mem_seen_iff x).mpr (Or.inr hx)

/-- What was left meanwhile is known from the states, whatever the property. -/
theorem unique {Q : α → Prop} (ha : Search.GrowsBy P s t a) (hb : Search.GrowsBy Q s t b) :
    a = b :=
  List.append_cancel_right (ha.left_eq.symm.trans hb.left_eq)

end Search.GrowsBy

namespace Search.Grows

variable {P : α → Prop} {s t u : Search α}

theorem refl (P : α → Prop) (s : Search α) : Search.Grows P s s :=
  ⟨[], .refl P s⟩

theorem trans (h₁ : Search.Grows P s t) (h₂ : Search.Grows P t u) : Search.Grows P s u := by
  obtain ⟨a, ha⟩ := h₁
  obtain ⟨b, hb⟩ := h₂
  exact ⟨b ++ a, ha.trans hb⟩

theorem enclose {x : α} (hx : x ∉ s.seen) (hP : P x)
    (h : Search.Grows P { s with seen := x :: s.seen } t) :
    Search.Grows P s { t with left := x :: t.left } := by
  obtain ⟨a, ha⟩ := h
  exact ⟨x :: a, ha.enclose hx hP⟩

theorem foldl {f : Search α → α → Search α} {xs : List α}
    (h : ∀ x ∈ xs, ∀ s, Search.Grows P s (f s x)) (s : Search α) :
    Search.Grows P s (xs.foldl f s) := by
  induction xs generalizing s with
  | nil => exact refl P s
  | cons x xs ih =>
    rw [List.foldl_cons]
    exact (h x List.mem_cons_self s).trans
      (ih (fun y hy ↦ h y (List.mem_cons_of_mem _ hy)) (f s x))

theorem subset_seen (h : Search.Grows P s t) {x : α} (hx : x ∈ s.seen) : x ∈ t.seen := by
  obtain ⟨a, ha⟩ := h
  exact ha.subset_seen hx

end Search.Grows

/-! ## Visits and searches -/

variable [DecidableEq α] {P : α → Prop} {next : α → List α}

theorem grows_visit (hnext : ∀ x, P x → ∀ y ∈ next x, P y) (fuel : Nat) {x : α} (hx : P x)
    (s : Search α) : Search.Grows P s (visit next fuel s x) := by
  -- Induction on the fuel; the visits from a node on are composed by `Search.Grows.foldl`.
  induction fuel generalizing x s with
  | zero => exact Search.Grows.refl P s
  | succ fuel ih =>
    rw [visit]
    by_cases hseen : x ∈ s.seen
    · rw [if_pos hseen]
      exact Search.Grows.refl P s
    · rw [if_neg hseen]
      exact Search.Grows.enclose hseen hx
        (Search.Grows.foldl (fun y hy t ↦ ih (hnext x hx y hy) t) _)

private theorem grows_search (hnext : ∀ x, P x → ∀ y ∈ next x, P y) (fuel : Nat) {starts : List α}
    (hstarts : ∀ x ∈ starts, P x) : Search.Grows P {} (search next fuel starts) :=
  Search.Grows.foldl (fun x hx s ↦ grows_visit hnext fuel (hstarts x hx) s) _

/-- A search enters exactly the nodes that it leaves, and leaves each of them once. -/
theorem nodup_left_search (next : α → List α) (fuel : Nat) (starts : List α) :
    (search next fuel starts).left.Nodup ∧
      ∀ x, x ∈ (search next fuel starts).left ↔ x ∈ (search next fuel starts).seen := by
  have hgrows : Search.Grows (fun _ ↦ True) {} (search next fuel starts) :=
    grows_search (by simp) fuel (by simp)
  obtain ⟨added, h⟩ := hgrows
  have hleft : (search next fuel starts).left = added := by
    rw [h.left_eq]
    exact List.append_nil added
  rw [hleft]
  refine ⟨h.nodup, fun x ↦ ?_⟩
  rw [h.mem_seen_iff]
  simp

private theorem property_of_mem_seen_search (hnext : ∀ x, P x → ∀ y ∈ next x, P y) {fuel : Nat}
    {starts : List α} (hstarts : ∀ x ∈ starts, P x) {x : α}
    (hx : x ∈ (search next fuel starts).seen) : P x := by
  obtain ⟨added, h⟩ := grows_search hnext fuel hstarts
  rcases (h.mem_seen_iff x).mp hx with hx | hx
  · exact h.property x hx
  · exact absurd hx List.not_mem_nil

private theorem mem_seen_visit_succ (next : α → List α) (fuel : Nat) (s : Search α) (x : α) :
    x ∈ (visit next (fuel + 1) s x).seen := by
  rw [visit]
  by_cases hseen : x ∈ s.seen
  · rw [if_pos hseen]
    exact hseen
  · rw [if_neg hseen]
    have hgrows : Search.Grows (fun _ ↦ True) { s with seen := x :: s.seen }
        ((next x).foldl (visit next fuel) { s with seen := x :: s.seen }) :=
      Search.Grows.foldl (fun y _ t ↦ grows_visit (by simp) fuel trivial t) _
    exact hgrows.subset_seen List.mem_cons_self

theorem mem_seen_foldl_visit_of_mem {next : α → List α} {fuel : Nat} {starts : List α}
    {s : Search α} {x : α} (hx : x ∈ starts) :
    x ∈ (starts.foldl (visit next (fuel + 1)) s).seen := by
  obtain ⟨before, after, rfl⟩ := List.append_of_mem hx
  rw [List.foldl_append, List.foldl_cons]
  have hgrows : ∀ s, Search.Grows (fun _ ↦ True) s (after.foldl (visit next (fuel + 1)) s) :=
    Search.Grows.foldl fun y _ t ↦ grows_visit (by simp) (fuel + 1) trivial t
  exact (hgrows _).subset_seen (mem_seen_visit_succ next fuel _ x)

theorem mem_seen_search_of_mem {next : α → List α} {fuel : Nat} {starts : List α} {x : α}
    (hx : x ∈ starts) : x ∈ (search next (fuel + 1) starts).seen :=
  mem_seen_foldl_visit_of_mem hx

/-! ## Reachable nodes -/

variable {edges : List (α × α)}

theorem mem_successors_iff {x y : α} : y ∈ successors edges x ↔ (x, y) ∈ edges := by
  rw [successors, List.mem_filterMap]
  constructor
  · rintro ⟨⟨a, b⟩, he, h⟩
    by_cases ha : a = x
    · rw [if_pos ha] at h
      cases h
      exact ha ▸ he
    · rw [if_neg ha] at h
      cases h
  · intro h
    exact ⟨(x, y), h, if_pos rfl⟩

theorem reaches_of_mem_reachable {x y : α} (h : y ∈ reachable edges x) : Reaches edges x y := by
  refine property_of_mem_seen_search (P := Reaches edges x) ?_ ?_ h
  · intro y hy z hz
    exact hy.concat (mem_successors_iff.mp hz)
  · intro y hy
    exact .edge (mem_successors_iff.mp hy)

theorem mem_reachable_of_mem {x y : α} (h : (x, y) ∈ edges) : y ∈ reachable edges x :=
  mem_seen_search_of_mem (mem_successors_iff.mpr h)

/-! ## Topological orders -/

variable {nodes order : List α}

theorem isForward_of_topologicalOrder? (h : topologicalOrder? nodes edges = some order) :
    IsForward order edges := by
  rw [topologicalOrder?] at h
  split at h
  · next hforward =>
    cases h
    exact hforward
  · cases h

/-- A topological order lists the nodes, each of them once. -/
theorem perm_of_topologicalOrder? (h : topologicalOrder? nodes edges = some order)
    (hnodup : nodes.Nodup) (htarget : ∀ e ∈ edges, e.2 ∈ nodes) : order.Perm nodes := by
  rw [topologicalOrder?] at h
  split at h
  · cases h
    obtain ⟨hleft, hmem⟩ := nodup_left_search (successors edges) (nodes.length + 1) nodes
    refine (List.perm_ext_iff_of_nodup hleft hnodup).mpr fun x ↦ ?_
    rw [hmem]
    constructor
    · refine property_of_mem_seen_search (P := (· ∈ nodes)) ?_ fun x hx ↦ hx
      intro x _ y hy
      exact htarget (x, y) (mem_successors_iff.mp hy)
    · exact mem_seen_search_of_mem
  · cases h

end FlowRouting.Digraph
