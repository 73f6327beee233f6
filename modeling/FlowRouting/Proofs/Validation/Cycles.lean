import FlowRouting.Proofs.Validation.Acceptance

/-!
# Reference cycles

An edge and a reference both make one node need another. The check for cycles accepts exactly the
graphs in which these needs have no cycle, and else it reports a whole component of nodes that need
each other. Every other check fails with errors of other kinds; so what is reported as a cycle is
one, and a graph with a cycle that passes the other checks is reported as such.
-/

namespace FlowRouting

open Validation FlowRouting.Digraph

/-! ## The check for cycles -/

/-- What is reported as a cycle: the nodes of a component, in ascending order and each of them once,
where a way leads from each to each, itself included. -/
structure IsCycleReport (edges : List (String × String)) (ids : List String) : Prop where
  sorted : ids.Pairwise (· < ·)
  isComponent : IsComponent edges ids
  reaches : ∀ x ∈ ids, ∀ y ∈ ids, Reaches edges x y

private theorem isCycleReport_of_error {g : Graph} {deps : List (String × String)}
    {e : WorkflowError} (h : checkReferenceCycles g deps = .error e) :
    ∃ ids, e = .referenceCycle ids ∧ IsCycleReport (connections g deps) ids := by
  rw [checkReferenceCycles] at h
  split at h
  · next component hfound =>
    cases h
    obtain ⟨hcomponent, hnodup, hreaches⟩ :=
      isComponent_of_findCycle? (fun e he ↦ (mem_connections_iff.mp he).2.2) hfound
    refine ⟨sortTexts component, rfl, pairwise_lt_sortTexts hnodup,
      hcomponent.of_perm (perm_sortTexts component).symm, fun x hx y hy ↦ ?_⟩
    exact hreaches x (mem_sortTexts.mp hx) y (mem_sortTexts.mp hy)
  · cases h

/-! ## The other checks -/

private def WorkflowError.IsOther : WorkflowError → Prop
  | .referenceCycle _ => False
  | _ => True

namespace Validation

private theorem failsBy_checkDisplayNames (g : Graph) :
    FailsBy WorkflowError.IsOther (checkDisplayNames g) := by
  rw [checkDisplayNames]
  dsimp only
  split
  · rintro _ ⟨⟩
    exact trivial
  · split
    · exact .ok _
    · exact .error trivial

private theorem failsBy_staticDate (c : Clause) (s : String) :
    FailsBy WorkflowError.IsOther (staticDate c s) := by
  rw [staticDate]
  split
  · exact .ok _
  · exact .error trivial

private theorem failsBy_checkOperand (c : Clause) (value : String) :
    FailsBy WorkflowError.IsOther (checkOperand c value) := by
  rw [checkOperand]
  dsimp only
  split
  · split
    · exact .ok _
    · exact .error trivial
  · exact (failsBy_staticDate c value).map
  · exact (failsBy_staticDate c value).map
  · exact (failsBy_staticDate c value).map
  · split
    · exact .bind (failsBy_staticDate c _) fun _ ↦ .bind (failsBy_staticDate c _) fun _ ↦
        .ite (.error trivial) (.ok _)
    · exact .error trivial
  · exact .ite (.ok _) (.error trivial)
  · exact .ite (.ok _) (.error trivial)
  · exact .ite (.ok _) (.error trivial)
  · exact .ite (.ok _) (.error trivial)
  · exact .ok _

private theorem failsBy_checkStaticOperand (c : Clause) :
    FailsBy WorkflowError.IsOther (checkStaticOperand c) := by
  rw [checkStaticOperand]
  split
  · exact .ok _
  · exact .ite (.ok _) (failsBy_checkOperand c _)

private theorem failsBy_checkHandles (g : Graph) (nodeId : String) (c : Condition) :
    FailsBy WorkflowError.IsOther (checkHandles g nodeId c) := by
  rw [checkHandles]
  split
  · exact .error trivial
  · exact .ok _

private theorem failsBy_checkNode (g : Graph) (n : NamedNode) :
    FailsBy WorkflowError.IsOther (checkNode g n) := by
  rw [checkNode]
  split
  · split
    · exact .error trivial
    · refine .bind (failsBy_checkHandles g n.id _) fun _ ↦ .bind (.mapM fun p _ ↦ ?_) fun _ ↦ .ok _
      exact .bind (.forM fun c _ ↦ failsBy_checkStaticOperand c) fun _ ↦ .ok _
  · exact .ok _

end Validation

/-! ## All checks -/

private theorem Graph.validate_eq_referenceCycle_iff {g : Graph} {schemas : Schemas}
    {ids : List String} :
    g.validate schemas = .error (.referenceCycle ids) ↔ checkDisplayNames g = .ok () ∧
      ∃ findings, g.nodes.mapM (checkNode g) = .ok findings ∧
        checkReferenceCycles g (dependencies g (findings.flatMap Findings.uses)) =
          .error (.referenceCycle ids) := by
  rw [Graph.validate, bind_eq_error_iff]
  constructor
  · rintro (h | ⟨⟨⟩, hnames, h⟩)
    · exact (failsBy_checkDisplayNames g _ h).elim
    · refine ⟨hnames, ?_⟩
      rcases bind_eq_error_iff.mp h with h | ⟨findings, hfindings, h⟩
      · exact (FailsBy.mapM (fun n _ ↦ failsBy_checkNode g n) _ h).elim
      · rw [foldl_append_eq] at h
        rcases bind_eq_error_iff.mp h with h | ⟨⟨⟩, _, h⟩
        · exact ⟨findings, hfindings, h⟩
        · cases h
  · rintro ⟨hnames, findings, hfindings, hcycle⟩
    refine Or.inr ⟨(), hnames, bind_eq_error_iff.mpr (Or.inr ⟨findings, hfindings, ?_⟩)⟩
    rw [foldl_append_eq]
    exact bind_eq_error_iff.mpr (Or.inl hcycle)

/-- **Reference cycles are found, and only these.** Let nodes be connected if an edge or one of some
dependencies between nodes leads from the one to the other. The check for cycles passes exactly if
the connections have no cycle, and else it reports one whole component in which there is one. With
the references that are found at the nodes as dependencies, a graph with a cycle is never accepted,
and what is reported as a cycle is one. -/
theorem referenceCycles_exact {w : Workflow} {g : Graph} (hbuild : Graph.build w = .ok g)
    (schemas : Schemas) :
    (∀ deps,
      (∀ x y, (x, y) ∈ connections g deps ↔
        ((x, y) ∈ Graph.ends w.edges ∨ (x, y) ∈ deps) ∧
          x ∈ w.nodes.map NodeSpec.id ∧ y ∈ w.nodes.map NodeSpec.id) ∧
      (checkReferenceCycles g deps = .ok () ↔ IsAcyclic (connections g deps)) ∧
      ∀ e, checkReferenceCycles g deps = .error e →
        ∃ ids, e = .referenceCycle ids ∧ IsCycleReport (connections g deps) ids) ∧
    (∀ findings, g.nodes.mapM (checkNode g) = .ok findings → ∀ x,
      Reaches (connections g (dependencies g (findings.flatMap Findings.uses))) x x →
      (∀ warnings, g.validate schemas ≠ .ok warnings) ∧
        (checkDisplayNames g = .ok () →
          ∃ ids, g.validate schemas = .error (.referenceCycle ids))) ∧
    ∀ ids, g.validate schemas = .error (.referenceCycle ids) →
      ∃ findings, g.nodes.mapM (checkNode g) = .ok findings ∧
        IsCycleReport (connections g (dependencies g (findings.flatMap Findings.uses))) ids := by
  have h := Graph.represents_of_build hbuild
  refine ⟨fun deps ↦ ⟨fun x y ↦ ?_, checkReferenceCycles_eq_ok_iff, fun e ↦
    isCycleReport_of_error⟩, fun findings hfindings x hround ↦ ⟨fun warnings hok ↦ ?_,
    fun hnames ↦ ?_⟩, fun ids hcycle ↦ ?_⟩
  · rw [mem_connections_iff, h.edges_eq, h.mem_order_iff, h.mem_order_iff]
  · obtain ⟨_, findings', hfindings', hcycles, _⟩ := Graph.validate_eq_ok_iff.mp hok
    cases hfindings.symm.trans hfindings'
    exact checkReferenceCycles_eq_ok_iff.mp hcycles x hround
  · cases hcheck : checkReferenceCycles g (dependencies g (findings.flatMap Findings.uses)) with
    | ok => exact absurd hround (checkReferenceCycles_eq_ok_iff.mp hcheck x)
    | error e =>
      obtain ⟨ids, rfl, _⟩ := isCycleReport_of_error hcheck
      exact ⟨ids, Graph.validate_eq_referenceCycle_iff.mpr ⟨hnames, findings, hfindings, hcheck⟩⟩
  · obtain ⟨_, findings, hfindings, hcheck⟩ := Graph.validate_eq_referenceCycle_iff.mp hcycle
    obtain ⟨ids', heq, hreport⟩ := isCycleReport_of_error hcheck
    cases heq
    exact ⟨findings, hfindings, hreport⟩

/-! ### A reference against an edge -/

/-- An edge leads from one node to another, to which the one refers; a third node only comes after
them. -/
def entangled : Workflow where
  id := Uuid.nil
  name := "entangled"
  nodes :=
    [{ id := "early", nodeType := "text", displayName := some "Early"
       config := [("template", .text "{{ Late.output }}")] },
      { id := "late", nodeType := "text", displayName := some "Late" },
      { id := "after", nodeType := "text", displayName := some "After"
        config := [("template", .text "{{ Early.output }}")] }]
  edges := [{ source := "early", target := "late" }, { source := "late", target := "after" }]

def entangledGraph : Graph where
  nodes := nameNodes [] entangled.nodes
  edges := entangled.edges

/-- What the checks find at the three nodes. -/
def entangledFindings : List Findings :=
  [{ uses := [⟨"early", "Late.output"⟩] }, {}, { uses := [⟨"after", "Early.output"⟩] }]

private theorem build_entangled : Graph.build entangled = .ok entangledGraph := rfl

private theorem mapM_checkNode_entangled :
    entangledGraph.nodes.mapM (checkNode entangledGraph) = .ok entangledFindings := rfl

private theorem dependencies_entangled :
    dependencies entangledGraph (entangledFindings.flatMap Findings.uses) =
      [("late", "early"), ("early", "after")] := rfl

/-- The reference forward is no cycle; the one against the edge is, and the third node is not on
it. -/
theorem referenceCycles_exact_entangled :
    Graph.build entangled = .ok entangledGraph ∧
      entangledGraph.nodes.mapM (checkNode entangledGraph) = .ok entangledFindings ∧
      dependencies entangledGraph (entangledFindings.flatMap Findings.uses) =
        [("late", "early"), ("early", "after")] ∧
      checkReferenceCycles entangledGraph [("early", "after")] = .ok () ∧
      (∀ warnings, entangledGraph.validate Schemas.standard ≠ .ok warnings) ∧
      ∃ ids, entangledGraph.validate Schemas.standard = .error (.referenceCycle ids) ∧
        IsCycleReport (connections entangledGraph [("late", "early"), ("early", "after")]) ids ∧
        "after" ∉ ids := by
  obtain ⟨hcheck, hrejected, hreport⟩ :=
    referenceCycles_exact build_entangled Schemas.standard
  have hforward : IsForward ["early", "late", "after"]
      (connections entangledGraph [("early", "after")]) := by decide
  have hround : Reaches (connections entangledGraph
      (dependencies entangledGraph (entangledFindings.flatMap Findings.uses))) "early" "early" :=
    .step (y := "late") (by decide) (.edge (by decide))
  obtain ⟨hnever, hcycle⟩ := hrejected entangledFindings mapM_checkNode_entangled "early" hround
  obtain ⟨ids, hids⟩ := hcycle (checkDisplayNames_eq_ok_iff.mpr (by decide +kernel))
  obtain ⟨findings, hfindings, hcomponent⟩ := hreport ids hids
  cases mapM_checkNode_entangled.symm.trans hfindings
  rw [dependencies_entangled] at hcomponent
  refine ⟨build_entangled, mapM_checkNode_entangled, dependencies_entangled,
    (hcheck _).2.1.mpr (isAcyclic_of_isForward hforward), hnever, ids, hids, hcomponent,
    fun hafter ↦ ?_⟩
  obtain ⟨⟨z, hz⟩, _⟩ := (hcomponent.reaches _ hafter _ hafter).exists_ends
  simp [connections, Graph.ends, entangledGraph, entangled] at hz

end FlowRouting
