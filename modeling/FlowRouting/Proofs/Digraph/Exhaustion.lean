import FlowRouting.Proofs.Digraph.Search

/-!
# Searches with enough fuel

The fuel of a search bounds its depth, and a visit without fuel does nothing. Every visit that does
something enters a node, so a search that has more fuel than there are nodes left to enter never
runs out of it: `Search.Exhausts` says that it has then followed every edge from the nodes that it
left. An edge from such a node leads to a node that was left before it or was entered before the
search went on; or else it closes a cycle.

This settles two questions at once. What a search lists as reachable is all that is reachable. And a
topological order is found whenever there is no cycle, because no edge can lead back.
-/

namespace FlowRouting.Digraph

variable {α : Type}

/-! ## Ways -/

theorem Reaches.trans {edges : List (α × α)} {x y z : α} (h : Reaches edges x y)
    (h' : Reaches edges y z) : Reaches edges x z := by
  induction h with
  | edge h => exact .step h h'
  | step h _ ih => exact .step h (ih h')

theorem Reaches.mono {edges edges' : List (α × α)} (hsubset : edges ⊆ edges') {x y : α}
    (h : Reaches edges x y) : Reaches edges' x y := by
  induction h with
  | edge h => exact .edge (hsubset h)
  | step h _ ih => exact .step (hsubset h) ih

theorem Reaches.exists_ends {edges : List (α × α)} {x y : α} (h : Reaches edges x y) :
    (∃ z, (x, z) ∈ edges) ∧ ∃ z, (z, y) ∈ edges := by
  induction h with
  | edge h => exact ⟨⟨_, h⟩, ⟨_, h⟩⟩
  | step h _ ih => exact ⟨⟨_, h⟩, ih.2⟩

theorem Reaches.induct {edges : List (α × α)} {P : α → Prop}
    (hstep : ∀ x y, (x, y) ∈ edges → P x → P y) {x y : α} (h : Reaches edges x y) (hx : P x) :
    P y := by
  induction h with
  | edge h => exact hstep _ _ h hx
  | step h _ ih => exact ih (hstep _ _ h hx)

/-- The edges have no cycle. -/
def IsAcyclic (edges : List (α × α)) : Prop :=
  ∀ x, ¬Reaches edges x x

theorem IsAcyclic.mono {edges edges' : List (α × α)} (h : IsAcyclic edges')
    (hsubset : edges ⊆ edges') : IsAcyclic edges :=
  fun x hx ↦ h x (hx.mono hsubset)

/-! ## Exhaustive searches -/

/-- A search went on from `s` to `t`, has meanwhile left the nodes of a list, and has followed every
edge from them. -/
private structure Search.Exhausts (edges : List (α × α)) (s t : Search α) (added : List α) :
    Prop extends Search.GrowsBy (fun _ ↦ True) s t added where
  followed : ∀ before y after, added = before ++ y :: after → ∀ z, (y, z) ∈ edges →
    z ∈ s.seen ∨ z ∈ after ∨ z ∈ added ∧ Reaches edges z y

namespace Search.Exhausts

variable {edges : List (α × α)} {s t u : Search α} {a b : List α}

private theorem refl (edges : List (α × α)) (s : Search α) : Search.Exhausts edges s s [] :=
  ⟨.refl _ s, by simp⟩

private theorem trans (ha : Search.Exhausts edges s t a) (hb : Search.Exhausts edges t u b) :
    Search.Exhausts edges s u (b ++ a) := by
  refine ⟨ha.toGrowsBy.trans hb.toGrowsBy, fun before y after hsplit z he ↦ ?_⟩
  rcases List.append_eq_append_iff.mp hsplit with ⟨b', rfl, hlater⟩ | ⟨a', hearlier, hrest⟩
  · -- The node was left first, before the search went on to `t`.
    rcases ha.followed b' y after hlater z he with hz | hz | ⟨hz, hback⟩
    · exact Or.inl hz
    · exact Or.inr (Or.inl hz)
    · exact Or.inr (Or.inr ⟨List.mem_append_right _ hz, hback⟩)
  · cases a' with
    | nil =>
      rw [List.nil_append] at hrest
      rcases ha.followed [] y after hrest.symm z he with hz | hz | ⟨hz, hback⟩
      · exact Or.inl hz
      · exact Or.inr (Or.inl hz)
      · exact Or.inr (Or.inr ⟨List.mem_append_right _ hz, hback⟩)
    | cons y' a' =>
      rw [List.cons_append, List.cons.injEq] at hrest
      obtain ⟨rfl, rfl⟩ := hrest
      rcases hb.followed before y a' hearlier z he with hz | hz | ⟨hz, hback⟩
      · rcases (ha.mem_seen_iff z).mp hz with hz | hz
        · exact Or.inr (Or.inl (List.mem_append_right _ hz))
        · exact Or.inl hz
      · exact Or.inr (Or.inl (List.mem_append_left _ hz))
      · exact Or.inr (Or.inr ⟨List.mem_append_left _ hz, hback⟩)

/-- Entering a node, following its edges, and leaving it. What is left meanwhile is reached from the
node, so an edge from there to the node closes a cycle. -/
private theorem enclose {x : α} (hx : x ∉ s.seen)
    (ha : Search.Exhausts edges { s with seen := x :: s.seen } t a)
    (hreach : ∀ y ∈ a, Reaches edges x y) (hnext : ∀ z, (x, z) ∈ edges → z ∈ t.seen) :
    Search.Exhausts edges s { t with left := x :: t.left } (x :: a) := by
  refine ⟨ha.toGrowsBy.enclose hx trivial, fun before y after hsplit z he ↦ ?_⟩
  -- The edge begins at the node itself, or at one that was left before it.
  cases before with
  | nil =>
    rw [List.nil_append, List.cons.injEq] at hsplit
    obtain ⟨rfl, rfl⟩ := hsplit
    rcases (ha.mem_seen_iff z).mp (hnext z he) with hz | hz
    · exact Or.inr (Or.inl hz)
    · rcases List.mem_cons.mp hz with rfl | hz
      · exact Or.inr (Or.inr ⟨List.mem_cons_self, .edge he⟩)
      · exact Or.inl hz
  | cons x' before =>
    rw [List.cons_append, List.cons.injEq] at hsplit
    obtain ⟨rfl, hsplit⟩ := hsplit
    rcases ha.followed before y after hsplit z he with hz | hz | ⟨hz, hback⟩
    · rcases List.mem_cons.mp hz with rfl | hz
      · have hy : y ∈ a := by
          rw [hsplit]
          exact List.mem_append_cons_self
        exact Or.inr (Or.inr ⟨List.mem_cons_self, hreach y hy⟩)
      · exact Or.inl hz
    · exact Or.inr (Or.inl hz)
    · exact Or.inr (Or.inr ⟨List.mem_cons_of_mem _ hz, hback⟩)

private theorem mem_seen_of_edge (h : Search.Exhausts edges s t a) {y z : α} (hy : y ∈ a)
    (he : (y, z) ∈ edges) : z ∈ t.seen := by
  obtain ⟨before, after, hsplit⟩ := List.append_of_mem hy
  rw [h.mem_seen_iff]
  rcases h.followed before y after hsplit z he with hz | hz | ⟨hz, _⟩
  · exact Or.inr hz
  · exact Or.inl (hsplit ▸ List.mem_append_right _ (List.mem_cons_of_mem _ hz))
  · exact Or.inl hz

/-- Without cycles every edge from a node that was left leads to one that was left earlier or was
entered before. -/
private theorem mem_after_of_isAcyclic (h : Search.Exhausts edges s t a)
    (hacyclic : IsAcyclic edges) {before after : List α} {y z : α}
    (hsplit : a = before ++ y :: after) (he : (y, z) ∈ edges) :
    z ∈ s.seen ∨ z ∈ after := by
  rcases h.followed before y after hsplit z he with hz | hz | ⟨_, hback⟩
  · exact Or.inl hz
  · exact Or.inr hz
  · exact absurd (hback.concat he) (hacyclic z)

end Search.Exhausts

/-! ## Enough fuel -/

variable [DecidableEq α] {nodes : List α} {edges : List (α × α)}

/-- How many of some nodes a search has still to enter. -/
def Search.unseen (nodes : List α) (s : Search α) : Nat :=
  nodes.countP (· ∉ s.seen)

theorem Search.unseen_le {s t : Search α} (h : ∀ x ∈ s.seen, x ∈ t.seen) :
    t.unseen nodes ≤ s.unseen nodes := by
  refine List.countP_mono_left fun x _ hx ↦ ?_
  rw [decide_eq_true_eq] at hx ⊢
  exact fun hs ↦ hx (h x hs)

theorem Search.unseen_enter_lt {s : Search α} {x : α} (hx : x ∈ nodes) (hs : x ∉ s.seen) :
    Search.unseen nodes { s with seen := x :: s.seen } < s.unseen nodes := by
  obtain ⟨before, after, rfl⟩ := List.append_of_mem hx
  have hle : ∀ xs : List α, Search.unseen xs { s with seen := x :: s.seen } ≤ s.unseen xs :=
    fun xs ↦ Search.unseen_le fun y hy ↦ List.mem_cons_of_mem _ hy
  have hbefore := hle before
  have hafter := hle after
  have hentered : (x :: after).countP (· ∉ x :: s.seen) = after.countP (· ∉ x :: s.seen) :=
    List.countP_cons_of_neg (by simp)
  have hunseen : (x :: after).countP (· ∉ s.seen) = after.countP (· ∉ s.seen) + 1 :=
    List.countP_cons_of_pos (by simpa using hs)
  simp only [Search.unseen] at hbefore hafter ⊢
  rw [List.countP_append, List.countP_append, hentered, hunseen]
  omega

private theorem exhausts_foldl {f : Search α → α → Search α} {fuel : Nat} {xs : List α}
    (h : ∀ x ∈ xs, ∀ s : Search α, s.unseen nodes < fuel → ∃ a, Search.Exhausts edges s (f s x) a)
    {s : Search α} (hfuel : s.unseen nodes < fuel) :
    ∃ a, Search.Exhausts edges s (xs.foldl f s) a := by
  induction xs generalizing s with
  | nil => exact ⟨[], .refl edges s⟩
  | cons x xs ih =>
    obtain ⟨a, ha⟩ := h x List.mem_cons_self s hfuel
    have hfuel' : (f s x).unseen nodes < fuel :=
      Nat.lt_of_le_of_lt (Search.unseen_le fun y hy ↦ ha.subset_seen hy) hfuel
    obtain ⟨b, hb⟩ := ih (fun y hy ↦ h y (List.mem_cons_of_mem _ hy)) hfuel'
    exact ⟨b ++ a, ha.trans hb⟩

private theorem exhausts_visit (hends : ∀ e ∈ edges, e.2 ∈ nodes) {fuel : Nat} {x : α}
    (hx : x ∈ nodes) {s : Search α} (hfuel : s.unseen nodes < fuel) :
    ∃ a, Search.Exhausts edges s (visit (successors edges) fuel s x) a := by
  -- Induction on the fuel: entering a node takes one unit of it and one of the nodes to enter.
  induction fuel generalizing x s with
  | zero => exact absurd hfuel (Nat.not_lt_zero _)
  | succ fuel ih =>
    rw [visit]
    by_cases hseen : x ∈ s.seen
    · rw [if_pos hseen]
      exact ⟨[], .refl edges s⟩
    · rw [if_neg hseen]
      let entered : Search α := { s with seen := x :: s.seen }
      have hentered : entered.unseen nodes < fuel :=
        Nat.lt_of_lt_of_le (Search.unseen_enter_lt hx hseen) (Nat.le_of_lt_succ hfuel)
      have hnodes : ∀ y ∈ successors edges x, y ∈ nodes := fun y hy ↦
        hends (x, y) (mem_successors_iff.mp hy)
      obtain ⟨a, ha⟩ := exhausts_foldl (s := entered)
        (fun y hy t ht ↦ ih (hnodes y hy) ht) hentered
      obtain ⟨b, hb⟩ : Search.Grows (Reaches edges x) entered
          ((successors edges x).foldl (visit (successors edges) fuel) entered) :=
        Search.Grows.foldl (fun y hy t ↦ grows_visit
          (fun z hz w hw ↦ hz.concat (mem_successors_iff.mp hw)) fuel
          (.edge (mem_successors_iff.mp hy)) t) _
      rw [← ha.toGrowsBy.unique hb] at hb
      refine ⟨x :: a, ha.enclose hseen hb.property fun z he ↦ ?_⟩
      obtain ⟨fuel, rfl⟩ := Nat.exists_eq_succ_of_ne_zero (Nat.ne_zero_of_lt hentered)
      exact mem_seen_foldl_visit_of_mem (mem_successors_iff.mpr he)

private theorem exhausts_search (hends : ∀ e ∈ edges, e.2 ∈ nodes) {fuel : Nat}
    (hfuel : nodes.length < fuel) {starts : List α} (hstarts : ∀ x ∈ starts, x ∈ nodes) :
    Search.Exhausts edges {} (search (successors edges) fuel starts)
      (search (successors edges) fuel starts).left := by
  have hunseen : Search.unseen nodes {} < fuel := Nat.lt_of_le_of_lt List.countP_le_length hfuel
  obtain ⟨a, ha⟩ := exhausts_foldl (f := visit (successors edges) fuel)
    (fun x hx s hs ↦ exhausts_visit hends (hstarts x hx) hs) hunseen
  have hleft : (search (successors edges) fuel starts).left = a := by
    rw [search, ha.left_eq]
    exact List.append_nil a
  rw [hleft]
  exact ha

/-! ## Reachable nodes -/

theorem mem_reachable_iff {x y : α} : y ∈ reachable edges x ↔ Reaches edges x y := by
  refine ⟨reaches_of_mem_reachable, fun h ↦ ?_⟩
  have hends : ∀ e ∈ edges, e.2 ∈ edges.map Prod.snd := fun e he ↦ List.mem_map_of_mem he
  have hstarts : ∀ z ∈ successors edges x, z ∈ edges.map Prod.snd := fun z hz ↦
    List.mem_map.mpr ⟨_, mem_successors_iff.mp hz, rfl⟩
  -- The fuel is more than the number of edges, and so than that of the nodes they lead to.
  have hfuel : (edges.map Prod.snd).length < edges.length + 1 := by
    rw [List.length_map]
    omega
  have hexhausts := exhausts_search hends hfuel hstarts
  have hclosed : ∀ y z, (y, z) ∈ edges → y ∈ reachable edges x → z ∈ reachable edges x :=
    fun y z he hy ↦ hexhausts.mem_seen_of_edge (((nodup_left_search _ _ _).2 y).mpr hy) he
  cases h with
  | edge he => exact mem_reachable_of_mem he
  | step he hrest => exact hrest.induct hclosed (mem_reachable_of_mem he)

/-! ## Topological orders -/

theorem idxOf_lt_of_reaches {order : List α} (hforward : IsForward order edges) {x y : α}
    (h : Reaches edges x y) : order.idxOf x < order.idxOf y := by
  induction h with
  | edge he => exact hforward _ he
  | step he _ ih => exact Nat.lt_trans (hforward _ he) ih

theorem isAcyclic_of_isForward {order : List α} (h : IsForward order edges) : IsAcyclic edges :=
  fun _ hx ↦ Nat.lt_irrefl _ (idxOf_lt_of_reaches h hx)

private theorem isForward_search (hends : ∀ e ∈ edges, e.1 ∈ nodes ∧ e.2 ∈ nodes)
    (hacyclic : IsAcyclic edges) :
    IsForward (search (successors edges) (nodes.length + 1) nodes).left edges := by
  intro e he
  have hexhausts := exhausts_search (fun e he ↦ (hends e he).2) (Nat.lt_succ_self nodes.length)
    (fun x hx ↦ hx)
  obtain ⟨hnodup, hmem⟩ := nodup_left_search (successors edges) (nodes.length + 1) nodes
  have hsource : e.1 ∈ (search (successors edges) (nodes.length + 1) nodes).left :=
    (hmem e.1).mpr (mem_seen_search_of_mem (hends e he).1)
  obtain ⟨before, after, hsplit⟩ := List.append_of_mem hsource
  have htarget := (hexhausts.mem_after_of_isAcyclic hacyclic hsplit he).resolve_left
    List.not_mem_nil
  rw [hsplit] at hnodup ⊢
  obtain ⟨_, hafter, hdisjoint⟩ := List.nodup_append.mp hnodup
  have hnot : ∀ x ∈ e.1 :: after, x ∉ before := fun x hx hbefore ↦ hdisjoint x hbefore x hx rfl
  have hne : e.1 ≠ e.2 := fun h ↦ (List.nodup_cons.mp hafter).1 (h ▸ htarget)
  rw [List.idxOf_append_of_notMem (hnot _ List.mem_cons_self),
    List.idxOf_append_of_notMem (hnot _ (List.mem_cons_of_mem _ htarget)), List.idxOf_cons_self,
    List.idxOf_cons_ne _ hne]
  omega

/-- There is a topological order exactly if there is no cycle, and it is then the one in which a
search leaves the nodes. -/
theorem topologicalOrder?_eq_some_iff (hends : ∀ e ∈ edges, e.1 ∈ nodes ∧ e.2 ∈ nodes)
    {order : List α} :
    topologicalOrder? nodes edges = some order ↔
      IsAcyclic edges ∧ order = (search (successors edges) (nodes.length + 1) nodes).left := by
  rw [topologicalOrder?]
  constructor
  · intro h
    split at h
    · next hforward =>
      cases h
      exact ⟨isAcyclic_of_isForward hforward, rfl⟩
    · cases h
  · rintro ⟨hacyclic, rfl⟩
    rw [if_pos (isForward_search hends hacyclic)]

end FlowRouting.Digraph
