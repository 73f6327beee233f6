import Mathlib.Data.List.Induction
import FlowRouting.Proofs.Fallible
import FlowRouting.Proofs.Graph.Building
import FlowRouting.Scope
import FlowRouting.Validation.Basic

/-!
# What a namespace stands for

A namespace is looked up twice. The checks before a run look it up among all nodes of a workflow,
`Validation.target?`; a run looks it up among the ancestors of the node that has the reference,
`binding?`. Both prefer display names to ids, so both find a node that *goes by* the namespace among
the nodes that they look at.

The two differ in one case. A namespace that is the id of an ancestor may be the display name of a
node that is no ancestor: the checks then take the latter, the run the former.
-/

namespace FlowRouting

/-! ## Sorted texts -/

private theorem pairwise_le_sortTexts (texts : List String) :
    (sortTexts texts).Pairwise fun a b ↦ decide (a ≤ b) = true := by
  refine List.pairwise_mergeSort (fun a b c hab hbc ↦ ?_) (fun a b ↦ ?_) texts
  · exact decide_eq_true (String.le_trans (of_decide_eq_true hab) (of_decide_eq_true hbc))
  · simp [String.le_total a b]

theorem perm_sortTexts (texts : List String) : (sortTexts texts).Perm texts :=
  List.mergeSort_perm texts _

private theorem sortTexts_eq_of_perm {texts texts' : List String} (h : texts.Perm texts') :
    sortTexts texts = sortTexts texts' := by
  have hperm : (sortTexts texts).Perm (sortTexts texts') :=
    ((perm_sortTexts texts).trans h).trans (perm_sortTexts texts').symm
  refine hperm.eq_of_pairwise (fun a b _ _ hab hba ↦ ?_) (pairwise_le_sortTexts texts)
    (pairwise_le_sortTexts texts')
  exact String.le_antisymm (of_decide_eq_true hab) (of_decide_eq_true hba)

theorem mem_sortTexts {texts : List String} {s : String} : s ∈ sortTexts texts ↔ s ∈ texts :=
  (perm_sortTexts texts).mem_iff

theorem pairwise_lt_sortTexts {texts : List String} (h : texts.Nodup) :
    (sortTexts texts).Pairwise (· < ·) := by
  have hnodup : (sortTexts texts).Nodup := (perm_sortTexts texts).nodup_iff.mpr h
  refine (hnodup.and (pairwise_le_sortTexts texts)).imp ?_
  rintro a b ⟨hne, hle⟩
  exact Decidable.byContradiction fun hnlt ↦
    hne (String.le_antisymm (of_decide_eq_true hle) hnlt)

/-! ## The symbol table -/

namespace SymbolTable

/-- What a name stands for that the nodes with some ids have. -/
private def shared? : List String → Option Binding
  | [] => none
  | [id] => some (.node id)
  | ids => some (.ambiguous (sortTexts ids))

private theorem shared?_concat (ids : List String) (id : String) :
    shared? (ids ++ [id]) = some (Binding.withNode (shared? ids) id) := by
  rcases ids with _ | ⟨a, _ | ⟨b, rest⟩⟩
  · rfl
  · rfl
  · have hsorted := (perm_sortTexts (a :: b :: rest)).append_right [id]
    show some (Binding.ambiguous (sortTexts (a :: b :: rest ++ [id]))) =
      some (Binding.ambiguous (sortTexts (sortTexts (a :: b :: rest) ++ [id])))
    rw [sortTexts_eq_of_perm hsorted]

variable {nodes : List NamedNode} {scope : String}

/-- Binding the display names of nodes binds each name to all that have it. -/
private theorem get?_foldl_bindName (nodes : List NamedNode) (scope : String) :
    Dict.get? (nodes.foldl bindName []) scope =
      shared? ((nodes.filter (·.displayName == scope)).map NamedNode.id) := by
  -- From the last node backwards, because a binding grows at its end.
  induction nodes using List.reverseRecOn with
  | nil => rfl
  | append_singleton nodes n ih =>
    rw [List.foldl_append, List.foldl_cons, List.foldl_nil, bindName, Dict.get?_insert,
      List.filter_append]
    by_cases hname : n.displayName = scope
    · rw [if_pos hname, hname, ih, List.filter_cons_of_pos (by simpa using hname), List.filter_nil,
        List.map_append, List.map_cons, List.map_nil, shared?_concat]
    · rw [if_neg hname, ih, List.filter_cons_of_neg (by simpa using hname), List.filter_nil,
        List.append_nil]

private theorem get?_foldl_bindId (nodes : List NamedNode) (table : SymbolTable) (scope : String) :
    Dict.get? (nodes.foldl bindId table) scope =
      (Dict.get? table scope).or
        (if nodes.any (·.id == scope) then some (.node scope) else none) := by
  induction nodes generalizing table with
  | nil => exact (Option.or_none).symm
  | cons n nodes ih =>
    -- An id is bound only where the table has nothing.
    have hstep : Dict.get? (bindId table n) scope =
        (Dict.get? table scope).or (if n.id == scope then some (.node scope) else none) := by
      rw [bindId]
      by_cases hid : n.id = scope
      · subst hid
        cases hbound : Dict.get? table n.id with
        | none => simp [Dict.contains, Dict.get?_insert, hbound]
        | some b => simp [Dict.contains, hbound]
      · by_cases hcontains : Dict.contains table n.id
        · simp [hcontains, hid]
        · simp [hcontains, Dict.get?_insert, hid]
    rw [List.foldl_cons, ih, hstep, Option.or_assoc, List.any_cons]
    by_cases hid : n.id = scope
    · simp [hid]
    · simp [hid]

end SymbolTable

/-- A namespace stands for the nodes with the display name; if there is none, for the one with the
id. -/
theorem binding?_eq (nodes : List NamedNode) (scope : String) :
    binding? nodes scope =
      match nodes.filter (·.displayName == scope) with
      | [] => if nodes.any (·.id == scope) then some (.node scope) else none
      | [n] => some (.node n.id)
      | named => some (.ambiguous (sortTexts (named.map NamedNode.id))) := by
  rw [binding?, SymbolTable.ofNodes, SymbolTable.get?_foldl_bindId,
    SymbolTable.get?_foldl_bindName]
  generalize nodes.filter (·.displayName == scope) = named
  rcases named with _ | ⟨a, _ | ⟨b, rest⟩⟩
  · rfl
  · rfl
  · rfl

/-! ## Looking up among nodes -/

/-- A node goes by a namespace among some nodes: under its display name, or under its id if no
display name is in the way. -/
def GoesBy (nodes : List NamedNode) (scope : String) (n : NamedNode) : Prop :=
  n ∈ nodes ∧ (n.displayName = scope ∨ n.id = scope ∧ ∀ m ∈ nodes, m.displayName ≠ scope)

section Binding

variable {nodes : List NamedNode} {scope : String}

theorem goesBy_of_displayName {n : NamedNode} (hn : n ∈ nodes) (h : n.displayName = scope) :
    GoesBy nodes scope n := ⟨hn, Or.inl h⟩

theorem GoesBy.displayName_or_id {m n : NamedNode} (hm : GoesBy nodes scope m)
    (hn : GoesBy nodes scope n) : m.displayName = n.displayName ∨ m.id = n.id := by
  obtain ⟨hmem, hm⟩ := hm
  obtain ⟨hmem', hn⟩ := hn
  rcases hm with hm | ⟨hm, hnone⟩
  · rcases hn with hn | ⟨_, hnone⟩
    · exact Or.inl (hm.trans hn.symm)
    · exact absurd hm (hnone m hmem)
  · rcases hn with hn | ⟨hn, _⟩
    · exact absurd hn (hnone n hmem')
    · exact Or.inr (hm.trans hn.symm)

theorem mem_named_iff {n : NamedNode} :
    n ∈ nodes.filter (·.displayName == scope) ↔ n ∈ nodes ∧ n.displayName = scope := by
  rw [List.mem_filter, beq_iff_eq]

/-- A namespace stands for nothing exactly if no node has it as its name or id. -/
theorem binding?_eq_none_iff :
    binding? nodes scope = none ↔ ∀ n ∈ nodes, n.displayName ≠ scope ∧ n.id ≠ scope := by
  rcases hnamed : nodes.filter (·.displayName == scope) with _ | ⟨a, _ | ⟨b, rest⟩⟩
  · have hnone : ∀ n ∈ nodes, n.displayName ≠ scope := fun n hn hname ↦
      List.not_mem_nil (hnamed ▸ mem_named_iff.mpr ⟨hn, hname⟩)
    rw [binding?_eq, hnamed]
    simp only [ite_eq_right_iff, reduceCtorEq, imp_false, List.any_eq_true, beq_iff_eq,
      not_exists, not_and]
    exact ⟨fun h n hn ↦ ⟨hnone n hn, h n hn⟩, fun h n hn ↦ (h n hn).2⟩
  all_goals
    have ha : a ∈ nodes ∧ a.displayName = scope :=
      mem_named_iff.mp (hnamed ▸ List.mem_cons_self)
    rw [binding?_eq, hnamed]
    simp only [reduceCtorEq, false_iff]
    exact fun h ↦ (h a ha.1).1 ha.2

theorem exists_goesBy_of_binding? {id : String} (h : binding? nodes scope = some (.node id)) :
    ∃ n, GoesBy nodes scope n ∧ n.id = id := by
  rcases hnamed : nodes.filter (·.displayName == scope) with _ | ⟨a, _ | ⟨b, rest⟩⟩
  · have hnone : ∀ n ∈ nodes, n.displayName ≠ scope := fun n hn hname ↦
      List.not_mem_nil (hnamed ▸ mem_named_iff.mpr ⟨hn, hname⟩)
    rw [binding?_eq, hnamed] at h
    by_cases hany : nodes.any (·.id == scope)
    · obtain ⟨n, hn, hid⟩ := List.any_eq_true.mp hany
      rw [beq_iff_eq] at hid
      simp only [hany, if_true] at h
      cases h
      exact ⟨n, ⟨hn, Or.inr ⟨hid, hnone⟩⟩, hid⟩
    · simp only [hany] at h
      cases h
  · have ha : a ∈ nodes ∧ a.displayName = scope :=
      mem_named_iff.mp (hnamed ▸ List.mem_cons_self)
    rw [binding?_eq, hnamed] at h
    cases h
    exact ⟨a, goesBy_of_displayName ha.1 ha.2, rfl⟩
  · rw [binding?_eq, hnamed] at h
    cases h

private theorem binding?_ne_ambiguous (hnames : (nodes.map NamedNode.displayName).Nodup)
    {ids : List String} : binding? nodes scope ≠ some (.ambiguous ids) := by
  intro h
  rcases hnamed : nodes.filter (·.displayName == scope) with _ | ⟨a, _ | ⟨b, rest⟩⟩
  · rw [binding?_eq, hnamed] at h
    by_cases hany : nodes.any (·.id == scope)
    · simp only [hany, if_true] at h
      cases h
    · simp only [hany] at h
      cases h
  · rw [binding?_eq, hnamed] at h
    cases h
  · -- The first two would have the same display name.
    have ha : a.displayName = scope := (mem_named_iff.mp (hnamed ▸ List.mem_cons_self)).2
    have hb : b.displayName = scope :=
      (mem_named_iff.mp (hnamed ▸ List.mem_cons_of_mem _ List.mem_cons_self)).2
    have hsub : (a :: b :: rest).Sublist nodes := hnamed ▸ List.filter_sublist
    have hpair := hnames.sublist (hsub.map NamedNode.displayName)
    rw [List.map_cons, List.map_cons, ha, hb] at hpair
    exact (List.nodup_cons.mp hpair).1 List.mem_cons_self

theorem GoesBy.binding?_eq (hnames : (nodes.map NamedNode.displayName).Nodup) {n : NamedNode}
    (hn : GoesBy nodes scope n) : binding? nodes scope = some (.node n.id) := by
  cases hbound : binding? nodes scope with
  | none =>
    obtain ⟨hname, hid⟩ := binding?_eq_none_iff.mp hbound n hn.1
    rcases hn.2 with heq | ⟨heq, _⟩
    · exact absurd heq hname
    · exact absurd heq hid
  | some binding =>
    cases binding with
    | ambiguous ids => exact absurd hbound (binding?_ne_ambiguous hnames)
    | node id =>
      obtain ⟨m, hm, rfl⟩ := exists_goesBy_of_binding? hbound
      rcases hm.displayName_or_id hn with heq | heq
      · rw [List.inj_on_of_nodup_map hnames hm.1 hn.1 heq]
      · rw [heq]

theorem binding?_eq_of_perm {nodes' : List NamedNode} (h : nodes.Perm nodes') :
    binding? nodes scope = binding? nodes' scope := by
  have hany : nodes.any (·.id == scope) = nodes'.any (·.id == scope) := by
    rw [Bool.eq_iff_iff, List.any_eq_true, List.any_eq_true]
    simp only [h.mem_iff]
  have hnamed := h.filter (·.displayName == scope)
  rw [binding?_eq, binding?_eq, hany]
  generalize nodes.filter (·.displayName == scope) = named at hnamed
  generalize nodes'.filter (·.displayName == scope) = named' at hnamed
  have hids := sortTexts_eq_of_perm (hnamed.map NamedNode.id)
  have hlength := hnamed.length_eq
  -- The ids of several nodes are sorted, so their order does not show.
  rcases named with _ | ⟨a, _ | ⟨b, rest⟩⟩
  · rw [List.nil_perm.mp hnamed]
  · rw [List.singleton_perm.mp hnamed]
  · rcases named' with _ | ⟨a', _ | ⟨b', rest'⟩⟩
    · cases hlength
    · cases hlength
    · simp only [hids]

end Binding

/-! ## Resolving -/

namespace Scope

variable {s : Scope} {reference : String}

/-- A reference is decided by what its namespace stands for, unless this is blank or reserved. -/
theorem resolve_eq (hblank : (Reference.split reference).scope ≠ "")
    (hreserved : Reference.isReserved (Reference.split reference).scope = false) :
    s.resolve reference =
      match binding? s.nodes (Reference.split reference).scope with
      | none => .error (.unknownVariable reference.trimBlanks)
      | some (.ambiguous ids) => .error (.ambiguousNamespace (Reference.split reference).scope ids)
      | some (.node id) =>
        match s.outputs.get? id with
        | none => .error (.notYetComputed (Reference.split reference).scope id)
        | some outputs => .ok (outputAt outputs (Reference.split reference).field) := by
  rw [resolve]
  simp only [String.isEmpty_iff, hblank, if_false, hreserved]
  rfl

theorem resolve_of_bound (hblank : (Reference.split reference).scope ≠ "")
    (hreserved : Reference.isReserved (Reference.split reference).scope = false) {id : String}
    (hbound : binding? s.nodes (Reference.split reference).scope = some (.node id)) :
    s.resolve reference =
      match s.outputs.get? id with
      | none => .error (.notYetComputed (Reference.split reference).scope id)
      | some outputs => .ok (outputAt outputs (Reference.split reference).field) := by
  rw [resolve_eq hblank hreserved, hbound]

/-- A reference is unknown if its namespace is blank, or neither reserved nor that of a node. -/
theorem unknown_iff :
    (∃ x, s.resolve reference = .error (.unknownVariable x)) ↔
      (Reference.split reference).scope = "" ∨
        Reference.isReserved (Reference.split reference).scope = false ∧
          ∀ n ∈ s.nodes, n.displayName ≠ (Reference.split reference).scope ∧
            n.id ≠ (Reference.split reference).scope := by
  rw [← binding?_eq_none_iff, resolve]
  by_cases hblank : (Reference.split reference).scope = ""
  · simp [hblank]
  · by_cases hreserved : Reference.isReserved (Reference.split reference).scope = true
    · simp [hblank, hreserved]
    · simp only [String.isEmpty_iff, hblank, if_false, hreserved, false_or]
      cases hbinding : binding? s.nodes (Reference.split reference).scope with
      | none => simp
      | some binding =>
        cases binding with
        | ambiguous ids => simp
        | node id => cases hout : s.outputs.get? id <;> simp [hout]

theorem reserved_or_bound {v : Value} (h : s.resolve reference = .ok v) :
    v = s.run.reserved (Reference.split reference) ∨
      ∃ id outputs, (Reference.split reference).scope ≠ "" ∧
        Reference.isReserved (Reference.split reference).scope = false ∧
        binding? s.nodes (Reference.split reference).scope = some (.node id) ∧
        s.outputs.get? id = some outputs ∧
        v = outputAt outputs (Reference.split reference).field := by
  rw [resolve] at h
  split at h
  · cases h
  · next hempty =>
    split at h
    · cases h
      exact .inl rfl
    · next hreserved =>
      split at h
      · cases h
      · cases h
      · next id hbound =>
        split at h
        · cases h
        · next outputs houtputs =>
          cases h
          refine .inr ⟨id, outputs, ?_, ?_, hbound, houtputs, rfl⟩
          · rwa [String.isEmpty_iff] at hempty
          · rwa [Bool.not_eq_true] at hreserved

/-- A reference that stands for nothing is unknown, or its namespace is ambiguous, or the node that
it is bound to has no outputs. -/
theorem error_cases {e : EvalError} (h : s.resolve reference = .error e) :
    (∃ x, e = .unknownVariable x) ∨
      (∃ ids, binding? s.nodes (Reference.split reference).scope = some (.ambiguous ids) ∧
        e = .ambiguousNamespace (Reference.split reference).scope ids) ∨
      ∃ id, e = .notYetComputed (Reference.split reference).scope id := by
  rw [resolve] at h
  split at h
  · cases h
    exact Or.inl ⟨_, rfl⟩
  · split at h
    · cases h
    · split at h
      · cases h
        exact Or.inl ⟨_, rfl⟩
      · next ids hambiguous =>
        cases h
        exact Or.inr (Or.inl ⟨ids, hambiguous, rfl⟩)
      · split at h
        · cases h
          exact Or.inr (Or.inr ⟨_, rfl⟩)
        · cases h

theorem unknown_or_notYetComputed (hnames : (s.nodes.map NamedNode.displayName).Nodup)
    {e : EvalError} (h : s.resolve reference = .error e) :
    (∃ x, e = .unknownVariable x) ∨
      ∃ id, e = .notYetComputed (Reference.split reference).scope id := by
  rcases error_cases h with hunknown | ⟨ids, hambiguous, _⟩ | hmissing
  · exact Or.inl hunknown
  · exact absurd hambiguous (binding?_ne_ambiguous hnames)
  · exact Or.inr hmissing

end Scope

/-! ## Display names that passed their check -/

namespace Validation

variable {g : Graph}

theorem checkDisplayNames_eq_ok_iff :
    checkDisplayNames g = .ok () ↔
      (∀ n ∈ g.nodes, Reference.isReserved n.displayName = false) ∧
        (g.nodes.map NamedNode.displayName).Nodup := by
  have hreserved : (g.nodes.map NamedNode.displayName).find? Reference.isReserved = none ↔
      ∀ n ∈ g.nodes, Reference.isReserved n.displayName = false := by
    simp [List.find?_eq_none]
  have hshared : (sortTexts ((g.nodes.map NamedNode.displayName).filter fun name ↦
      1 < (g.nodes.map NamedNode.displayName).count name)).head? = none ↔
      (g.nodes.map NamedNode.displayName).Nodup := by
    rw [List.head?_eq_none_iff, sortTexts, ← List.length_eq_zero_iff, List.length_mergeSort,
      List.length_eq_zero_iff, List.filter_eq_nil_iff, List.nodup_iff_count_le_one]
    constructor
    · intro h name
      by_cases hname : name ∈ g.nodes.map NamedNode.displayName
      · simpa using h name hname
      · rw [List.count_eq_zero_of_not_mem hname]
        exact Nat.zero_le 1
    · intro h name _
      simpa using h name
  rw [← hreserved, ← hshared, checkDisplayNames]
  simp only
  cases (g.nodes.map NamedNode.displayName).find? Reference.isReserved with
  | some name => simp [bind, Except.bind, throw, throwThe, MonadExceptOf.throw]
  | none =>
    simp only [true_and]
    cases (sortTexts ((g.nodes.map NamedNode.displayName).filter fun name ↦
      1 < (g.nodes.map NamedNode.displayName).count name)).head? with
    | none => simp [pure, Except.pure]
    | some name => simp [throw, throwThe, MonadExceptOf.throw]

/-! ## Looking up in the whole graph -/

variable {scope : String}

private theorem target?_eq_none_iff :
    target? g scope = none ↔ ∀ n ∈ g.nodes, n.displayName ≠ scope ∧ n.id ≠ scope := by
  rw [target?, Option.or_eq_none_iff, Graph.node?, List.find?_eq_none, List.find?_eq_none]
  simp only [List.mem_reverse, beq_iff_eq]
  exact ⟨fun h n hn ↦ ⟨h.1 n hn, h.2 n hn⟩, fun h ↦ ⟨fun n hn ↦ (h n hn).1, fun n hn ↦ (h n hn).2⟩⟩

theorem goesBy_of_target? {n : NamedNode} (h : target? g scope = some n) :
    GoesBy g.nodes scope n := by
  rw [target?, Option.or_eq_some_iff] at h
  rcases h with h | ⟨hnone, h⟩
  · have hmem := List.mem_of_find?_eq_some h
    have hname := List.find?_some h
    exact goesBy_of_displayName (List.mem_reverse.mp hmem) (by simpa using hname)
  · have hmem := List.mem_of_find?_eq_some h
    have hid := List.find?_some h
    rw [List.find?_eq_none] at hnone
    refine ⟨hmem, Or.inr ⟨by simpa using hid, fun m hm hname ↦ ?_⟩⟩
    exact hnone m (List.mem_reverse.mpr hm) (by simpa using hname)

end Validation

/-! ## One node for every namespace -/

namespace Graph.Represents

variable {w : Workflow} {g : Graph} {scope : String}

theorem eq_of_goesBy (h : g.Represents w) (hnames : (g.nodes.map NamedNode.displayName).Nodup)
    {m n : NamedNode} (hm : GoesBy g.nodes scope m) (hn : GoesBy g.nodes scope n) : m = n := by
  rcases hm.displayName_or_id hn with heq | heq
  · exact List.inj_on_of_nodup_map hnames hm.1 hn.1 heq
  · exact h.eq_of_id_eq hm.1 hn.1 heq

theorem target?_eq_some_iff (h : g.Represents w)
    (hnames : (g.nodes.map NamedNode.displayName).Nodup) {n : NamedNode} :
    Validation.target? g scope = some n ↔ GoesBy g.nodes scope n := by
  constructor
  · exact Validation.goesBy_of_target?
  · intro hn
    cases htarget : Validation.target? g scope with
    | none =>
      obtain ⟨hname, hid⟩ := Validation.target?_eq_none_iff.mp htarget n hn.1
      rcases hn.2 with hn | ⟨hn, _⟩
      · exact absurd hn hname
      · exact absurd hn hid
    | some m => rw [h.eq_of_goesBy hnames (Validation.goesBy_of_target? htarget) hn]

end Graph.Represents

/-! ## Before a run and during a run -/

/-- A node that goes by a namespace among the ancestors goes by it in the whole graph, unless the
namespace is the display name of another node. -/
theorem goesBy_nodes_iff {w : Workflow} {g : Graph} (h : g.Represents w)
    (hnames : (g.nodes.map NamedNode.displayName).Nodup) {nodeId scope : String} {n : NamedNode}
    (hn : GoesBy (g.ancestors nodeId) scope n) :
    GoesBy g.nodes scope n ↔ ∀ m ∈ g.nodes, m.displayName = scope → m.id = n.id := by
  obtain ⟨habove, hgoes⟩ := hn
  have hmem := Graph.mem_nodes_of_mem_ancestors habove
  constructor
  · intro hn m hm hname
    rw [h.eq_of_goesBy hnames (goesBy_of_displayName hm hname) hn]
  · intro honly
    refine ⟨hmem, hgoes.imp_right ?_⟩
    rintro ⟨hid, hnone⟩
    refine ⟨hid, fun m hm hname ↦ hnone n habove ?_⟩
    rwa [h.eq_of_id_eq hm hmem (honly m hm hname)] at hname

/-- **Where the two look-ups agree.** Let a namespace stand for a node in a run. The checks take it
for the same node, and count the same node as the one that is referred to, exactly if no other node
has the namespace as its display name. -/
theorem target?_eq_bound_iff {w : Workflow} {g : Graph} (hbuild : Graph.build w = .ok g)
    (hnames : Validation.checkDisplayNames g = .ok ()) {nodeId scope boundId : String}
    (hscope : Reference.isReserved scope = false)
    (hbound : binding? (g.ancestors nodeId) scope = some (.node boundId)) :
    ((Validation.target? g scope).map NamedNode.id = some boundId ↔
        ∀ m ∈ g.nodes, m.displayName = scope → m.id = boundId) ∧
      ∀ reference, (Reference.split reference).scope = scope →
        (Validation.dependencies g [⟨nodeId, reference⟩] = [(boundId, nodeId)] ↔
          ∀ m ∈ g.nodes, m.displayName = scope → m.id = boundId) := by
  have hg := Graph.represents_of_build hbuild
  have hnodup := (Validation.checkDisplayNames_eq_ok_iff.mp hnames).2
  obtain ⟨n, hn, rfl⟩ := exists_goesBy_of_binding? hbound
  -- Both look-ups find what goes by the namespace, among the ancestors and among all nodes.
  have hagree : (Validation.target? g scope).map NamedNode.id = some n.id ↔
      ∀ m ∈ g.nodes, m.displayName = scope → m.id = n.id := by
    rw [← goesBy_nodes_iff hg hnodup hn, ← hg.target?_eq_some_iff hnodup, Option.map_eq_some_iff]
    constructor
    · rintro ⟨m, hm, hid⟩
      have hmem := (Validation.goesBy_of_target? hm).1
      rwa [hg.eq_of_id_eq hmem (Graph.mem_nodes_of_mem_ancestors hn.1) hid] at hm
    · intro htarget
      exact ⟨n, htarget, rfl⟩
  refine ⟨hagree, fun reference href ↦ ?_⟩
  rw [← hagree, Validation.dependencies, List.filterMap_cons, List.filterMap_nil,
    Validation.Use.target?]
  simp only [href, hscope]
  cases Validation.target? g scope with
  | none => simp
  | some m => simp

/-! ### A shadowed namespace

The id of a draft is the display name of a node that is not above the reader of the draft. -/

/-- The draft, its reader, and a node that shadows the draft. -/
def shadowedDraft : Workflow where
  id := Uuid.nil
  name := "shadowed draft"
  nodes :=
    [{ id := "source", nodeType := "text", displayName := some "draft" },
      { id := "reader", nodeType := "text", displayName := some "reader",
        config := [("template", .text "\x7b\x7bsource.text\x7d\x7d")] },
      { id := "other", nodeType := "text", displayName := some "source" }]
  edges := [{ source := "source", target := "reader" }]

def shadowedGraph : Graph where
  nodes :=
    ["other", "source", "reader"].filterMap fun id ↦
      (nameNodes [] shadowedDraft.nodes).find? (·.id == id)
  edges := shadowedDraft.edges

private theorem build_shadowedDraft : Graph.build shadowedDraft = .ok shadowedGraph := rfl

private theorem checkDisplayNames_shadowedGraph :
    Validation.checkDisplayNames shadowedGraph = .ok () :=
  Validation.checkDisplayNames_eq_ok_iff.mpr (by decide +kernel)

/-- Under its id the draft is what a run reads and not what the checks look at. -/
theorem target?_ne_bound_shadowedDraft :
    Graph.build shadowedDraft = .ok shadowedGraph ∧
      Validation.checkDisplayNames shadowedGraph = .ok () ∧
      Reference.isReserved "source" = false ∧
      binding? (shadowedGraph.ancestors "reader") "source" = some (.node "source") ∧
      (Validation.target? shadowedGraph "source").map NamedNode.id = some "other" :=
  ⟨build_shadowedDraft, checkDisplayNames_shadowedGraph, by decide, by decide +kernel,
    by decide +kernel⟩

/-- Under its display name the draft is what both look at. -/
theorem target?_eq_bound_shadowedDraft :
    binding? (shadowedGraph.ancestors "reader") "draft" = some (.node "source") ∧
      (Validation.target? shadowedGraph "draft").map NamedNode.id = some "source" := by
  have hbound : binding? (shadowedGraph.ancestors "reader") "draft" = some (.node "source") := by
    decide +kernel
  have hagree := (target?_eq_bound_iff build_shadowedDraft checkDisplayNames_shadowedGraph
    (by decide) hbound).1
  exact ⟨hbound, hagree.mpr (by decide +kernel)⟩

end FlowRouting
