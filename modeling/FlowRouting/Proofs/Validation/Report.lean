import FlowRouting.Proofs.Digraph.Cycle
import FlowRouting.Proofs.Scope.Binding

/-!
# What a report says

A graph that passes its checks has been searched for references node by node, and for each of them
the report has the warnings. `Graph.Passes` collects what later proofs need of this. If there are no
warnings at all, every reference that was found has a namespace that is reserved or that of an
ancestor: a namespace of the node itself would be a cycle of one node.
-/

namespace FlowRouting

open Validation

/-! ## What the checks find -/

namespace Validation

variable {g : Graph} {n : NamedNode} {f : Findings}

theorem Use.goesBy_of_target? {use : Use} (h : use.target? g = some n) :
    GoesBy g.nodes (Reference.split use.reference).scope n := by
  rw [Use.target?] at h
  split at h
  · cases h
  · exact Validation.goesBy_of_target? h

theorem foldl_append_eq (findings : List Findings) (a : Findings) :
    findings.foldl Findings.append a =
      ⟨a.warnings ++ findings.flatMap Findings.warnings,
        a.uses ++ findings.flatMap Findings.uses⟩ := by
  induction findings generalizing a with
  | nil => rw [List.flatMap_nil, List.flatMap_nil, List.append_nil, List.append_nil]; rfl
  | cons f findings ih =>
    rw [List.foldl_cons, ih, Findings.append, List.flatMap_cons, List.flatMap_cons,
      List.append_assoc, List.append_assoc]

theorem eq_of_checkPath {nodeId : String} {p : Path} (h : checkPath nodeId p = .ok f) :
    f = {
      warnings := if p.clauses.isEmpty then [.alwaysMatches p.id nodeId] else []
      uses := (p.clauses.flatMap clauseReferences).map fun reference ↦ ⟨nodeId, reference⟩ } := by
  obtain ⟨⟨⟩, _, h⟩ := bind_eq_ok_iff.mp h
  exact (Except.ok.inj h).symm

theorem exists_of_checkNode (h : checkNode g n = .ok f) (hcondition : n.spec.isCondition = true) :
    ∃ c findings, Condition.ofFields n.id n.spec.config = .ok c ∧
      checkHandles g n.id c = .ok () ∧ c.guarded.mapM (checkPath n.id) = .ok findings ∧
      f = ⟨findings.flatMap Findings.warnings, findings.flatMap Findings.uses⟩ := by
  rw [checkNode, if_pos hcondition] at h
  split at h
  · cases h
  · next c hc =>
    obtain ⟨⟨⟩, hhandles, h⟩ := bind_eq_ok_iff.mp h
    obtain ⟨findings, hfindings, h⟩ := bind_eq_ok_iff.mp h
    cases h
    exact ⟨c, findings, hc, hhandles, hfindings, foldl_append_eq findings {}⟩

theorem eq_of_checkNode (h : checkNode g n = .ok f) (hcondition : n.spec.isCondition = false) :
    f = { uses := (fieldReferences n.spec.config).map fun reference ↦ ⟨n.id, reference⟩ } := by
  rw [checkNode, hcondition] at h
  exact (Except.ok.inj h).symm

theorem mem_connections_iff {dependencies : List (String × String)} {e : String × String} :
    e ∈ connections g dependencies ↔
      (e ∈ Graph.ends g.edges ∨ e ∈ dependencies) ∧ e.1 ∈ g.order ∧ e.2 ∈ g.order := by
  rw [connections, List.mem_filter, List.mem_append, decide_eq_true_eq]

theorem checkReferenceCycles_eq_ok_iff {dependencies : List (String × String)} :
    checkReferenceCycles g dependencies = .ok () ↔
      Digraph.IsAcyclic (connections g dependencies) := by
  rw [← Digraph.findCycle?_eq_none_iff fun e he ↦ (mem_connections_iff.mp he).2.2,
    checkReferenceCycles]
  split <;> simp [*]

end Validation

/-- A graph passes if its display names and its nodes do and there is no cycle. The warnings are
those about the nodes and then those about the references. -/
theorem Graph.validate_eq_ok_iff {g : Graph} {schemas : Schemas} {warnings : List Warning} :
    g.validate schemas = .ok warnings ↔ checkDisplayNames g = .ok () ∧
      ∃ findings, g.nodes.mapM (checkNode g) = .ok findings ∧
        checkReferenceCycles g (dependencies g (findings.flatMap Findings.uses)) = .ok () ∧
        findings.flatMap Findings.warnings ++
          (findings.flatMap Findings.uses).flatMap (·.warnings g schemas) = warnings := by
  rw [Graph.validate]
  constructor
  · intro h
    obtain ⟨⟨⟩, hnames, h⟩ := bind_eq_ok_iff.mp h
    obtain ⟨findings, hfindings, h⟩ := bind_eq_ok_iff.mp h
    rw [foldl_append_eq] at h
    obtain ⟨⟨⟩, hcycles, h⟩ := bind_eq_ok_iff.mp h
    exact ⟨hnames, findings, hfindings, hcycles, Except.ok.inj h⟩
  · rintro ⟨hnames, findings, hfindings, hcycles, rfl⟩
    refine bind_eq_ok_iff.mpr ⟨(), hnames, bind_eq_ok_iff.mpr ⟨findings, hfindings, ?_⟩⟩
    rw [foldl_append_eq]
    exact bind_eq_ok_iff.mpr ⟨(), hcycles, rfl⟩

/-! ## Graphs that pass -/

/-- A graph passes its checks with these warnings and with these uses of references. -/
structure Graph.Passes (g : Graph) (schemas : Schemas) (warnings : List Warning)
    (uses : List Use) : Prop where
  names : checkDisplayNames g = .ok ()
  found : ∀ n ∈ g.nodes, ∃ f, checkNode g n = .ok f ∧ f.uses ⊆ uses
  acyclic : Digraph.IsAcyclic (connections g (dependencies g uses))
  reported : ∀ use ∈ uses, use.warnings g schemas ⊆ warnings

theorem Graph.exists_passes_of_validate {g : Graph} {schemas : Schemas}
    {warnings : List Warning} (h : g.validate schemas = .ok warnings) :
    ∃ uses, g.Passes schemas warnings uses := by
  obtain ⟨hnames, findings, hfindings, hcycles, rfl⟩ := validate_eq_ok_iff.mp h
  refine ⟨findings.flatMap Findings.uses, hnames, fun n hn ↦ ?_,
    checkReferenceCycles_eq_ok_iff.mp hcycles, fun use huse warning hwarning ↦ ?_⟩
  · obtain ⟨f, hf, hcheck⟩ := exists_of_mapM_eq_ok hfindings hn
    exact ⟨f, hcheck, fun use huse ↦ List.mem_flatMap.mpr ⟨f, hf, huse⟩⟩
  · exact List.mem_append_right _ (List.mem_flatMap.mpr ⟨use, huse, hwarning⟩)

namespace Graph.Passes

variable {g : Graph} {schemas : Schemas} {warnings : List Warning} {uses : List Use}

/-! ## References that are found -/

/-- The references of the guarded clauses of a condition are found. -/
theorem clauseReference_mem (h : g.Passes schemas warnings uses) {n : NamedNode}
    (hn : n ∈ g.nodes) (hcondition : n.spec.isCondition = true) {c : Condition}
    (hc : Condition.ofFields n.id n.spec.config = .ok c) {p : Path} (hp : p ∈ c.guarded)
    {clause : Clause} (hclause : clause ∈ p.clauses) {reference : String}
    (hreference : reference ∈ clauseReferences clause) : ⟨n.id, reference⟩ ∈ uses := by
  obtain ⟨f, hcheck, hsubset⟩ := h.found n hn
  obtain ⟨c', findings, hc', _, hfindings, rfl⟩ := exists_of_checkNode hcheck hcondition
  cases hc.symm.trans hc'
  obtain ⟨found, hmem, hpath⟩ := exists_of_mapM_eq_ok hfindings hp
  cases eq_of_checkPath hpath
  exact hsubset (List.mem_flatMap.mpr ⟨_, hmem,
    List.mem_map_of_mem (List.mem_flatMap.mpr ⟨clause, hclause, hreference⟩)⟩)

theorem mem_fieldReferences {fields : Fields} {key text reference : String}
    (htext : fields.get? key = some (.text text))
    (hreference : reference ∈ Template.references text) :
    reference ∈ fieldReferences fields := by
  induction fields with
  | nil => cases htext
  | cons field fields ih =>
    obtain ⟨k, v⟩ := field
    rw [fieldReferences, List.mem_append]
    rw [Dict.get?] at htext
    split at htext
    · cases htext
      rw [valueReferences]
      exact Or.inl hreference
    · exact Or.inr (ih htext)

/-- The references in a text of the configuration of any other node are found. -/
theorem textReference_mem (h : g.Passes schemas warnings uses) {n : NamedNode}
    (hn : n ∈ g.nodes) (hcondition : n.spec.isCondition = false) {key text : String}
    (htext : n.spec.configText? key = some text) {reference : String}
    (hreference : reference ∈ Template.references text) : ⟨n.id, reference⟩ ∈ uses := by
  obtain ⟨f, hcheck, hsubset⟩ := h.found n hn
  cases eq_of_checkNode hcheck hcondition
  obtain ⟨v, hv, htext⟩ := Option.bind_eq_some_iff.mp htext
  cases v with
  | text s =>
    cases htext
    exact hsubset (List.mem_map_of_mem (mem_fieldReferences hv hreference))
  | _ => cases htext

theorem optionalReference_mem (h : g.Passes schemas warnings uses) {n : NamedNode}
    (hn : n ∈ g.nodes) (hcondition : n.spec.isCondition = false) {key reference : String}
    (hreference : reference ∈ ((n.spec.configText? key).map Template.references).getD []) :
    ⟨n.id, reference⟩ ∈ uses := by
  cases htext : n.spec.configText? key with
  | none =>
    rw [htext] at hreference
    exact absurd hreference List.not_mem_nil
  | some text =>
    rw [htext] at hreference
    exact h.textReference_mem hn hcondition htext hreference

theorem defaultReference_mem (h : g.Passes schemas warnings uses) {n : NamedNode}
    (hn : n ∈ g.nodes) (hcondition : n.spec.isCondition = false) {key reference : String}
    (hreference : reference ∈ Template.references ((n.spec.configText? key).getD "")) :
    ⟨n.id, reference⟩ ∈ uses := by
  -- The empty text has no references.
  have hnone : Template.references ((n.spec.configText? key).getD "") =
      ((n.spec.configText? key).map Template.references).getD [] := by
    cases n.spec.configText? key <;> rfl
  rw [hnone] at hreference
  exact h.optionalReference_mem hn hcondition hreference

/-! ## Reports without warnings -/

theorem target?_ne_self (h : g.Passes schemas warnings uses) {use : Use} (huse : use ∈ uses)
    {n : NamedNode} (htarget : use.target? g = some n) (hn : n ∈ g.nodes) :
    n.id ≠ use.nodeId := by
  intro hid
  have hmem : n.id ∈ g.order := List.mem_map_of_mem hn
  have hneeds : (n.id, n.id) ∈ dependencies g uses := by
    refine List.mem_filterMap.mpr ⟨use, huse, ?_⟩
    rw [htarget, ← hid]
    rfl
  exact h.acyclic n.id (.edge (mem_connections_iff.mpr ⟨Or.inr hneeds, hmem, hmem⟩))

/-- Without warnings, the namespace of a reference that is found is reserved or that of an
ancestor. -/
theorem exists_ancestor_of_clean (h : g.Passes schemas [] uses) {use : Use} (huse : use ∈ uses)
    (hscope : Reference.isReserved (Reference.split use.reference).scope = false) :
    ∃ n, GoesBy g.nodes (Reference.split use.reference).scope n ∧
      ∃ m ∈ g.ancestors use.nodeId, m.id = n.id := by
  have hclean := List.eq_nil_iff_forall_not_mem.mpr fun warning hwarning ↦
    List.not_mem_nil (h.reported use huse hwarning)
  rw [Use.warnings] at hclean
  simp only [hscope, Bool.false_eq_true, if_false] at hclean
  cases htarget : Validation.target? g (Reference.split use.reference).scope with
  | none =>
    rw [htarget] at hclean
    cases hclean
  | some n =>
    simp only [htarget, List.append_eq_nil_iff, ite_eq_left_iff, reduceCtorEq, imp_false,
      not_not, Bool.or_eq_true, beq_iff_eq, List.any_eq_true] at hclean
    have hgoes := goesBy_of_target? htarget
    have husetarget : use.target? g = some n := by
      rw [Use.target?]
      simp only [hscope, Bool.false_eq_true, if_false, htarget]
    rcases hclean.2 with hself | ⟨m, hm, hid⟩
    · exact absurd hself (h.target?_ne_self huse husetarget hgoes.1)
    · exact ⟨n, hgoes, m, hm, hid⟩

end Graph.Passes

end FlowRouting
