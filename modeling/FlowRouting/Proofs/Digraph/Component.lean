import FlowRouting.Digraph.Cycle
import FlowRouting.Proofs.Digraph.Exhaustion

/-!
# What a search for components completes

The search for components goes on from one state to another by growing the list of waiting nodes,
and what it adds there is not closed: from each added node a way leads back to a node that waited
before, and no edge leads outside of what is complete or waits at `low` or above. These facts
survive composition, and they are what is left of a visit when it is over: `Advances`.

They decide at the node that is left next. If it was led back below the place of this node, then the
node itself leads back to one that waited before. If not, the node and what waits behind it are
closed apart from what is complete, so the way back of each of them can only end at the node: they
are a component, and what is complete stays closed.
-/

namespace FlowRouting.Digraph

variable {α : Type} {edges : List (α × α)}

/-! ## Components -/

/-- There is a way of any number of edges from a node to another. -/
def Leads (edges : List (α × α)) (x y : α) : Prop :=
  x = y ∨ Reaches edges x y

namespace Leads

variable {x y z : α}

theorem refl (edges : List (α × α)) (x : α) : Leads edges x x :=
  Or.inl rfl

theorem trans (h : Leads edges x y) (h' : Leads edges y z) : Leads edges x z := by
  rcases h with rfl | h
  · exact h'
  · rcases h' with rfl | h'
    · exact Or.inr h
    · exact Or.inr (h.trans h')

theorem of_edge (he : (x, y) ∈ edges) (h : Leads edges y z) : Reaches edges x z := by
  rcases h with rfl | h
  · exact .edge he
  · exact .step he h

theorem induct {P : α → Prop} (hstep : ∀ x y, (x, y) ∈ edges → P x → P y)
    (h : Leads edges x y) (hx : P x) : P y := by
  rcases h with rfl | h
  · exact hx
  · exact h.induct hstep hx

end Leads

/-- The nodes of a list are a strongly connected component: there is one, and the others are those
that lead to it and to which it leads. -/
structure IsComponent (edges : List (α × α)) (component : List α) : Prop where
  ne_nil : component ≠ []
  mem_iff : ∀ x ∈ component, ∀ y, y ∈ component ↔ Leads edges x y ∧ Leads edges y x

namespace ComponentSearch

/-! ## Searches that go on -/

/-- A node is complete, or it waits at `low` or above. -/
private def Settles (s : ComponentSearch α) (x : α) : Prop :=
  x ∈ s.completed ∨ ∃ place, s.low ≤ place ∧ s.waiting[place]? = some x

/-- No node was entered twice, no edge leads out of what is complete, and what is listed as a
component is one. -/
private structure Sound (edges : List (α × α)) (s : ComponentSearch α) : Prop where
  nodup : (s.waiting ++ s.completed).Nodup
  closed : ∀ x y, (x, y) ∈ edges → x ∈ s.completed → y ∈ s.completed
  isComponent : ∀ c ∈ s.components, IsComponent edges c

/-- A search went on from `s` to `t`. The nodes of some list, all of which have a property `P`, wait
in addition, and if it was led back further than before, then to a node with this property. -/
private structure Advances (edges : List (α × α)) (P : α → Prop) (s t : ComponentSearch α)
    (added : List α) : Prop where
  waiting_eq : t.waiting = s.waiting ++ added
  completed_subset : s.completed ⊆ t.completed
  low_le : t.low ≤ s.low
  property : ∀ y ∈ added, P y
  back : ∀ y ∈ added, ∃ z ∈ s.waiting, Reaches edges y z
  followed : ∀ y ∈ added, ∀ z, (y, z) ∈ edges → t.Settles z
  found : t.low < s.low → t.low < s.waiting.length → ∃ z, P z ∧ s.waiting[t.low]? = some z

namespace Advances

variable {P Q : α → Prop} {s t u : ComponentSearch α} {a b : List α}

private theorem refl (edges : List (α × α)) (P : α → Prop) (s : ComponentSearch α) :
    Advances edges P s s [] :=
  ⟨by simp, List.Subset.refl _, Nat.le_refl _, by simp, by simp, by simp,
    fun hlow ↦ absurd hlow (Nat.lt_irrefl _)⟩

private theorem mono (hPQ : ∀ x, P x → Q x) (h : Advances edges P s t a) : Advances edges Q s t a :=
  { h with
    property := fun y hy ↦ hPQ y (h.property y hy)
    found := fun hlow hplace ↦ (h.found hlow hplace).imp fun z hz ↦ ⟨hPQ z hz.1, hz.2⟩ }

private theorem settles (h : Advances edges P s t a) {x : α} (hx : s.Settles x) : t.Settles x := by
  rcases hx with hx | ⟨place, hlow, hx⟩
  · exact Or.inl (h.completed_subset hx)
  · refine Or.inr ⟨place, Nat.le_trans h.low_le hlow, ?_⟩
    rw [h.waiting_eq, List.getElem?_append_left (List.getElem?_eq_some_iff.mp hx).1]
    exact hx

private theorem trans (ha : Advances edges P s t a) (hb : Advances edges P t u b) :
    Advances edges P s u (a ++ b) where
  waiting_eq := by rw [hb.waiting_eq, ha.waiting_eq, List.append_assoc]
  completed_subset := List.Subset.trans ha.completed_subset hb.completed_subset
  low_le := Nat.le_trans hb.low_le ha.low_le
  property y hy := (List.mem_append.mp hy).elim (ha.property y) (hb.property y)
  back y hy := by
    rcases List.mem_append.mp hy with hy | hy
    · exact ha.back y hy
    · obtain ⟨z, hz, hyz⟩ := hb.back y hy
      rw [ha.waiting_eq, List.mem_append] at hz
      rcases hz with hz | hz
      · exact ⟨z, hz, hyz⟩
      · obtain ⟨w, hw, hzw⟩ := ha.back z hz
        exact ⟨w, hw, hyz.trans hzw⟩
  followed y hy z he := by
    rcases List.mem_append.mp hy with hy | hy
    · exact hb.settles (ha.followed y hy z he)
    · exact hb.followed y hy z he
  found hlow hplace := by
    -- What led the search back came up in the second part, or `low` is what it was before it.
    rcases Nat.lt_or_ge u.low t.low with hlater | hearlier
    · have hplace' : u.low < t.waiting.length := by
        rw [ha.waiting_eq, List.length_append]
        omega
      obtain ⟨z, hz, hat⟩ := hb.found hlater hplace'
      rw [ha.waiting_eq, List.getElem?_append_left hplace] at hat
      exact ⟨z, hz, hat⟩
    · rw [Nat.le_antisymm hb.low_le hearlier] at hlow hplace ⊢
      exact ha.found hlow hplace

end Advances

/-- A search went on soundly from `s` to `t` through nodes that have a property, and has come to the
nodes of a list. -/
private structure Visits (edges : List (α × α)) (P : α → Prop) (xs : List α)
    (s t : ComponentSearch α) : Prop where
  sound : Sound edges t
  advances : ∃ added, Advances edges P s t added
  settles : ∀ x ∈ xs, t.Settles x

/-! ## Leaving a node -/

section Leaving

variable {s t : ComponentSearch α} {x : α} {a : List α}

private theorem waiting_eq_of_enter {P : α → Prop} (h : Advances edges P (s.enter x) t a) :
    t.waiting = s.waiting ++ x :: a := by
  rw [h.waiting_eq, enter, List.append_assoc, List.singleton_append]

variable (ht : Sound edges t) (h : Advances edges (Reaches edges x) (s.enter x) t a)
  (hnext : ∀ z, (x, z) ∈ edges → t.Settles z)

include h in
private theorem exists_reaches_of_low_lt (hlow : t.low < s.waiting.length) :
    ∃ z, Reaches edges x z ∧ s.waiting[t.low]? = some z := by
  obtain ⟨z, hxz, hz⟩ := h.found hlow (Nat.lt_of_lt_of_le hlow (by simp [enter]))
  rw [enter, List.getElem?_append_left hlow] at hz
  exact ⟨z, hxz, hz⟩

include ht h hnext

/-- If the search was led nowhere below the place of a node, then no edge leads from the node, from
what waits behind it or from what is complete to anything else. -/
private theorem closed_of_le_low (hlow : s.waiting.length ≤ t.low) (y z : α) (he : (y, z) ∈ edges)
    (hy : y ∈ x :: a ∨ y ∈ t.completed) : z ∈ x :: a ∨ z ∈ t.completed := by
  have hsettles : ∀ z, t.Settles z → z ∈ x :: a ∨ z ∈ t.completed := by
    rintro z (hz | ⟨place, hplace, hz⟩)
    · exact Or.inr hz
    · rw [waiting_eq_of_enter h, List.getElem?_append_right (Nat.le_trans hlow hplace)] at hz
      exact Or.inl (List.mem_of_getElem? hz)
  rcases hy with hy | hy
  · rcases List.mem_cons.mp hy with rfl | hy
    · exact hsettles z (hnext z he)
    · exact hsettles z (h.followed y hy z he)
  · exact Or.inr (ht.closed y z he hy)

/-- So the node and what waits behind it are a component. -/
private theorem isComponent_of_le_low (hlow : s.waiting.length ≤ t.low) :
    IsComponent edges (x :: a) := by
  have hclosed := closed_of_le_low ht h hnext hlow
  obtain ⟨hnodup, -, hincomplete⟩ := List.nodup_append.mp ht.nodup
  rw [waiting_eq_of_enter h] at hnodup hincomplete
  have hapart := (List.nodup_append.mp hnodup).2.2
  have honward : ∀ y ∈ x :: a, Leads edges x y := by
    intro y hy
    rcases List.mem_cons.mp hy with rfl | hy
    · exact .refl edges y
    · exact Or.inr (h.property y hy)
  have hback : ∀ y ∈ x :: a, Leads edges y x := by
    intro y hy
    rcases List.mem_cons.mp hy with rfl | hya
    · exact .refl edges y
    · obtain ⟨z, hz, hyz⟩ := h.back y hya
      rcases List.mem_append.mp hz with hz | hz
      · -- The way cannot leave what is complete and what waits from the node on.
        rcases hyz.induct hclosed (Or.inl hy) with hmem | hmem
        · exact absurd rfl (hapart z hz z hmem)
        · exact absurd rfl (hincomplete z (List.mem_append_left _ hz) z hmem)
      · rw [List.mem_singleton.mp hz] at hyz
        exact Or.inr hyz
  refine ⟨List.cons_ne_nil x a, fun y hy z ↦ ⟨fun hz ↦ ?_, fun ⟨hyz, hzy⟩ ↦ ?_⟩⟩
  · exact ⟨(hback y hy).trans (honward z hz), (hback z hz).trans (honward y hy)⟩
  · refine (hyz.induct hclosed (Or.inl hy)).resolve_right fun hcompleted ↦ ?_
    have hycompleted := hzy.induct ht.closed hcompleted
    exact hincomplete y (List.mem_append_right _ hy) y hycompleted rfl

/-- A node below whose place the search was led back has to wait. -/
private theorem visits_wait (hlow : t.low < s.waiting.length) :
    Visits edges (Leads edges x) [x] s { t with low := min s.low t.low } := by
  have hwaiting := waiting_eq_of_enter h
  obtain ⟨z, hxz, hz⟩ := exists_reaches_of_low_lt h hlow
  have hzmem : z ∈ s.waiting := List.mem_of_getElem? hz
  let u : ComponentSearch α := { t with low := min s.low t.low }
  have hlower : ∀ y, t.Settles y → u.Settles y := fun y hy ↦ hy.imp_right
    fun ⟨place, hplace, hat⟩ ↦ ⟨place, Nat.le_trans (Nat.min_le_right _ _) hplace, hat⟩
  -- What waits behind the node leads back to it or further, and the node itself leads to `z`.
  have hadvances : Advances edges (Leads edges x) s u (x :: a) := {
    waiting_eq := hwaiting
    completed_subset := h.completed_subset
    low_le := Nat.min_le_left _ _
    property := by
      rintro y (_ | ⟨_, hy⟩)
      · exact .refl edges x
      · exact Or.inr (h.property y hy)
    back := by
      rintro y (_ | ⟨_, hy⟩)
      · exact ⟨z, hzmem, hxz⟩
      · obtain ⟨w, hw, hyw⟩ := h.back y hy
        rcases List.mem_append.mp hw with hw | hw
        · exact ⟨w, hw, hyw⟩
        · rw [List.mem_singleton.mp hw] at hyw
          exact ⟨z, hzmem, hyw.trans hxz⟩
    followed := by
      rintro y (_ | ⟨_, hy⟩) w he
      · exact hlower w (hnext w he)
      · exact hlower w (h.followed y hy w he)
    found := by
      intro (hlow' : min s.low t.low < s.low) _
      have hmin : u.low = t.low := by
        simp only [u]
        omega
      rw [hmin]
      exact ⟨z, Or.inr hxz, hz⟩ }
  refine ⟨⟨ht.nodup, ht.closed, ht.isComponent⟩, ⟨x :: a, hadvances⟩, fun y hy ↦ ?_⟩
  rw [List.mem_singleton.mp hy]
  refine Or.inr ⟨s.waiting.length, Nat.le_trans (Nat.min_le_right _ _) (Nat.le_of_lt hlow), ?_⟩
  rw [hwaiting, List.getElem?_append_right (Nat.le_refl _), Nat.sub_self]
  rfl

/-- Any other node completes a component. -/
private theorem visits_complete (hlow : s.waiting.length ≤ t.low) :
    Visits edges (Leads edges x) [x] s
      { waiting := s.waiting, low := s.low, components := t.components ++ [x :: a] } := by
  let u : ComponentSearch α :=
    { waiting := s.waiting, low := s.low, components := t.components ++ [x :: a] }
  have hcompleted : u.completed = t.completed ++ x :: a := by
    simp [u, completed]
  have hmem : ∀ y, y ∈ u.completed ↔ y ∈ x :: a ∨ y ∈ t.completed := fun y ↦ by
    rw [hcompleted, List.mem_append, or_comm]
  -- What waited from the node on has moved to what is complete.
  have hperm : (s.waiting ++ u.completed).Perm (t.waiting ++ t.completed) := by
    rw [hcompleted, waiting_eq_of_enter h, List.append_assoc]
    exact List.perm_append_comm.append_left _
  have hadvances : Advances edges (Leads edges x) s u [] := {
    Advances.refl edges (Leads edges x) s with
    completed_subset := fun y hy ↦ (hmem y).mpr (Or.inr (h.completed_subset hy))
    followed := fun y hy ↦ absurd hy List.not_mem_nil }
  refine ⟨⟨hperm.nodup_iff.mpr ht.nodup, fun y z he hy ↦ ?_, fun c hc ↦ ?_⟩, ⟨[], hadvances⟩,
    fun y hy ↦ ?_⟩
  · exact (hmem z).mpr (closed_of_le_low ht h hnext hlow y z he ((hmem y).mp hy))
  · rcases List.mem_append.mp hc with hc | hc
    · exact ht.isComponent c hc
    · rw [List.mem_singleton.mp hc]
      exact isComponent_of_le_low ht h hnext hlow
  · rw [List.mem_singleton.mp hy]
    exact Or.inl ((hmem x).mpr (Or.inl List.mem_cons_self))

end Leaving

/-! ## Visits with enough fuel -/

variable [DecidableEq α] {nodes : List α} {P : α → Prop} {s t : ComponentSearch α} {x : α}

private theorem visits_leave
    (h : Visits edges (Reaches edges x) (successors edges x) (s.enter x) t) :
    Visits edges (Leads edges x) [x] s (s.leave t) := by
  obtain ⟨ht, ⟨a, ha⟩, hsettles⟩ := h
  have hnext : ∀ z, (x, z) ∈ edges → t.Settles z := fun z he ↦
    hsettles z (mem_successors_iff.mpr he)
  rw [leave]
  split
  · next hlow => exact visits_wait ht ha hnext hlow
  · next hlow =>
    rw [waiting_eq_of_enter ha, List.take_left, List.drop_left]
    exact visits_complete ht ha hnext (Nat.le_of_not_lt hlow)

private theorem visits_again (hs : Sound edges s) (hx : x ∈ s.waiting) :
    Visits edges (Leads edges x) [x] s { s with low := min s.low (s.waiting.idxOf x) } := by
  have hat : s.waiting[s.waiting.idxOf x]? = some x := List.getElem?_idxOf hx
  refine ⟨⟨hs.nodup, hs.closed, hs.isComponent⟩, ⟨[], ?_⟩, fun y hy ↦ ?_⟩
  · exact { Advances.refl edges (Leads edges x) s with
      low_le := Nat.min_le_left _ _
      followed := fun y hy ↦ absurd hy List.not_mem_nil
      found := by
        intro (hlow : min s.low (s.waiting.idxOf x) < s.low) _
        have hmin : min s.low (s.waiting.idxOf x) = s.waiting.idxOf x := by omega
        refine ⟨x, .refl edges x, ?_⟩
        simp only [hmin]
        exact hat }
  · rw [List.mem_singleton.mp hy]
    exact Or.inr ⟨s.waiting.idxOf x, Nat.min_le_right _ _, hat⟩

/-- The nodes that were entered, as a depth-first search has them. -/
private def entered (s : ComponentSearch α) : Search α :=
  { seen := s.waiting ++ s.completed }

omit [DecidableEq α] in
private theorem perm_seen_enter (s : ComponentSearch α) (x : α) :
    (s.enter x).entered.seen.Perm (x :: s.entered.seen) := by
  rw [entered, enter, List.append_assoc]
  exact List.perm_middle

private theorem unseen_enter_lt (hx : x ∈ nodes) (hs : x ∉ s.entered.seen) :
    (s.enter x).entered.unseen nodes < s.entered.unseen nodes :=
  Nat.lt_of_le_of_lt
    (Search.unseen_le fun _ hy ↦ (perm_seen_enter s x).mem_iff.mpr hy)
    (Search.unseen_enter_lt hx hs)

omit [DecidableEq α] in
private theorem Sound.enter (hs : Sound edges s) (hx : x ∉ s.entered.seen) :
    Sound edges (s.enter x) :=
  ⟨(perm_seen_enter s x).nodup_iff.mpr (List.nodup_cons.mpr ⟨hx, hs.nodup⟩), hs.closed,
    hs.isComponent⟩

private theorem Advances.unseen_le {a : List α} (h : Advances edges P s t a) :
    t.entered.unseen nodes ≤ s.entered.unseen nodes := by
  refine Search.unseen_le fun y hy ↦ ?_
  rcases List.mem_append.mp hy with hy | hy
  · refine List.mem_append_left _ ?_
    rw [h.waiting_eq]
    exact List.mem_append_left _ hy
  · exact List.mem_append_right _ (h.completed_subset hy)

private theorem visits_foldl {f : ComponentSearch α → α → ComponentSearch α} {fuel : Nat}
    {xs : List α} (h : ∀ x ∈ xs, ∀ s, Sound edges s → s.entered.unseen nodes < fuel →
      Visits edges P [x] s (f s x))
    (hs : Sound edges s) (hfuel : s.entered.unseen nodes < fuel) :
    Visits edges P xs s (xs.foldl f s) := by
  induction xs generalizing s with
  | nil => exact ⟨hs, ⟨[], .refl edges P s⟩, fun x hx ↦ absurd hx List.not_mem_nil⟩
  | cons x xs ih =>
    obtain ⟨hsound, ⟨a, ha⟩, hsettles⟩ := h x List.mem_cons_self s hs hfuel
    obtain ⟨hsound', ⟨b, hb⟩, hsettles'⟩ := ih (fun y hy ↦ h y (List.mem_cons_of_mem _ hy)) hsound
      (Nat.lt_of_le_of_lt ha.unseen_le hfuel)
    refine ⟨hsound', ⟨a ++ b, ha.trans hb⟩, fun y hy ↦ ?_⟩
    rcases List.mem_cons.mp hy with rfl | hy
    · exact hb.settles (hsettles y List.mem_cons_self)
    · exact hsettles' y hy

private theorem visits_explore (hends : ∀ e ∈ edges, e.2 ∈ nodes) {fuel : Nat} (hx : x ∈ nodes)
    (hs : Sound edges s) (hfuel : s.entered.unseen nodes < fuel) :
    Visits edges (Leads edges x) [x] s (explore (successors edges) fuel s x) := by
  -- Induction on the fuel: entering a node takes one unit of it and one of the nodes to enter.
  induction fuel generalizing x s with
  | zero => exact absurd hfuel (Nat.not_lt_zero _)
  | succ fuel ih =>
    rw [explore]
    by_cases hcompleted : x ∈ s.completed
    · rw [if_pos hcompleted]
      refine ⟨hs, ⟨[], .refl edges _ s⟩, fun y hy ↦ ?_⟩
      rw [List.mem_singleton.mp hy]
      exact Or.inl hcompleted
    · rw [if_neg hcompleted]
      by_cases hwaiting : x ∈ s.waiting
      · rw [if_pos hwaiting]
        exact visits_again hs hwaiting
      · rw [if_neg hwaiting]
        have hnew : x ∉ s.entered.seen := fun hmem ↦
          (List.mem_append.mp hmem).elim hwaiting hcompleted
        refine visits_leave (visits_foldl (fun y hy t ht htfuel ↦ ?_) (hs.enter hnew)
          (Nat.lt_of_lt_of_le (unseen_enter_lt hx hnew) (Nat.le_of_lt_succ hfuel)))
        have he := mem_successors_iff.mp hy
        obtain ⟨hsound, ⟨a, ha⟩, hsettles⟩ := ih (hends (x, y) he) ht htfuel
        exact ⟨hsound, ⟨a, ha.mono fun z hz ↦ hz.of_edge he⟩, hsettles⟩

end ComponentSearch

/-! ## All components -/

variable [DecidableEq α] {nodes : List α}

/-- What is found are components, each node is in one of them, and none in two. -/
theorem components_exact (hends : ∀ e ∈ edges, e.2 ∈ nodes) :
    (∀ c ∈ components nodes edges, IsComponent edges c) ∧
      (∀ x ∈ nodes, ∃ c ∈ components nodes edges, x ∈ c) ∧
      (components nodes edges).flatten.Nodup := by
  let f := ComponentSearch.explore (successors edges) (nodes.length + 1)
  have hbegin : ComponentSearch.Sound edges ({} : ComponentSearch α) :=
    ⟨List.nodup_nil, fun x y _ hx ↦ absurd hx List.not_mem_nil, fun c hc ↦
      absurd hc List.not_mem_nil⟩
  have hfuel : ({} : ComponentSearch α).entered.unseen nodes < nodes.length + 1 :=
    Nat.lt_succ_of_le List.countP_le_length
  have hvisits : ComponentSearch.Visits edges (fun _ ↦ True) nodes {} (nodes.foldl f {}) := by
    refine ComponentSearch.visits_foldl (fun x hx s hs hfuel ↦ ?_) hbegin hfuel
    obtain ⟨hsound, ⟨a, ha⟩, hsettles⟩ := ComponentSearch.visits_explore hends hx hs hfuel
    exact ⟨hsound, ⟨a, ha.mono fun _ _ ↦ trivial⟩, hsettles⟩
  obtain ⟨hsound, ⟨a, ha⟩, hsettles⟩ := hvisits
  -- A node that waits would lead back to one that waited at the beginning.
  have hnone : (nodes.foldl f {}).waiting = [] := by
    rw [ha.waiting_eq]
    refine List.eq_nil_iff_forall_not_mem.mpr fun y hy ↦ ?_
    obtain ⟨z, hz, _⟩ := ha.back y hy
    exact List.not_mem_nil hz
  refine ⟨hsound.isComponent, fun x hx ↦ ?_, (List.nodup_append.mp hsound.nodup).2.1⟩
  rcases hsettles x hx with hcompleted | ⟨place, _, hwaiting⟩
  · exact List.mem_flatten.mp hcompleted
  · rw [hnone] at hwaiting
    cases hwaiting

end FlowRouting.Digraph
