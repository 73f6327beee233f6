import FlowRouting.Proofs.Digraph.Exhaustion
import FlowRouting.Proofs.Graph.Part
import FlowRouting.Proofs.Run.Visits
import FlowRouting.Proofs.Validation.Report

/-!
# What is accepted

A workflow has a plan exactly if its graph can be built and passes the checks, and every node passes
the check of its own. Each of these is a condition on the nodes one by one, or says that there is no
cycle. Such conditions go over to a part of the workflow: the checks of a part find the same
references, and take them for the same nodes as long as these are there.
-/

namespace FlowRouting

open Validation FlowRouting.Digraph

/-! ## Findings of a node -/

namespace Validation

variable {g g' : Graph} {n : NamedNode} {f : Findings}

private theorem nodeId_of_mem_uses (h : checkNode g n = .ok f) {use : Use} (huse : use ∈ f.uses) :
    use.nodeId = n.id := by
  cases hcondition : n.spec.isCondition with
  | true =>
    obtain ⟨_, findings, _, _, hfindings, rfl⟩ := exists_of_checkNode h hcondition
    obtain ⟨found, hfound, huse⟩ := List.mem_flatMap.mp huse
    obtain ⟨p, _, hpath⟩ := exists_of_mem_mapM hfindings hfound
    cases eq_of_checkPath hpath
    obtain ⟨reference, _, rfl⟩ := List.mem_map.mp huse
    rfl
  | false =>
    cases eq_of_checkNode h hcondition
    obtain ⟨reference, _, rfl⟩ := List.mem_map.mp huse
    rfl

private theorem mem_order_of_mem_dependencies {findings : List Findings}
    (h : g.nodes.mapM (checkNode g) = .ok findings) {e : String × String}
    (he : e ∈ dependencies g (findings.flatMap Findings.uses)) :
    e.1 ∈ g.order ∧ e.2 ∈ g.order := by
  obtain ⟨use, huse, htarget⟩ := List.mem_filterMap.mp he
  obtain ⟨m, hm, rfl⟩ := Option.map_eq_some_iff.mp htarget
  obtain ⟨f, hf, huse⟩ := List.mem_flatMap.mp huse
  obtain ⟨n, hn, hcheck⟩ := exists_of_mem_mapM h hf
  rw [nodeId_of_mem_uses hcheck huse]
  exact ⟨List.mem_map_of_mem (Use.goesBy_of_target? hm).1, List.mem_map_of_mem hn⟩

private theorem checkHandles_of_subset (hedges : g'.edges ⊆ g.edges) {id : String} {c : Condition}
    (h : checkHandles g id c = .ok ()) : checkHandles g' id c = .ok () := by
  have hnone : ∀ {k : Graph}, checkHandles k id c = .ok () ↔ ∀ e ∈ k.outgoing id,
      (e.sourceHandle.filter fun handle ↦ !c.paths.any (·.id == handle)) = none := by
    intro k
    rw [← List.findSome?_eq_none_iff, checkHandles]
    split <;> simp [*]
  rw [hnone] at h ⊢
  intro e he
  obtain ⟨he, hsource⟩ := List.mem_filter.mp he
  exact h e (List.mem_filter.mpr ⟨hedges he, hsource⟩)

/-- With fewer edges there is less to find fault with, and the findings are the same. -/
theorem checkNode_of_subset (hedges : g'.edges ⊆ g.edges) (h : checkNode g n = .ok f) :
    checkNode g' n = .ok f := by
  rw [checkNode] at h ⊢
  split at h
  · next hcondition =>
    rw [if_pos hcondition]
    split at h
    · cases h
    · obtain ⟨⟨⟩, hhandles, h⟩ := bind_eq_ok_iff.mp h
      exact bind_eq_ok_iff.mpr ⟨(), checkHandles_of_subset hedges hhandles, h⟩
  · next hcondition =>
    rw [if_neg hcondition]
    exact h

end Validation

/-! ## Graphs that are accepted -/

namespace Graph.Represents

variable {g : Graph} {w : Workflow}

theorem ends_mem_order (h : g.Represents w) {e : String × String} (he : e ∈ Graph.ends g.edges) :
    e.1 ∈ g.order ∧ e.2 ∈ g.order := by
  rw [h.edges_eq] at he
  exact (h.ends_mem_nodes e he).imp h.mem_order_iff.mpr h.mem_order_iff.mpr

/-- A graph is accepted exactly if its display names and its nodes pass their checks, and edges and
references together have no cycle. -/
theorem exists_validate_eq_ok_iff (h : g.Represents w) {schemas : Schemas} :
    (∃ warnings, g.validate schemas = .ok warnings) ↔ checkDisplayNames g = .ok () ∧
      ∃ findings, g.nodes.mapM (checkNode g) = .ok findings ∧
        IsAcyclic (Graph.ends g.edges ++ dependencies g (findings.flatMap Findings.uses)) := by
  have hcycles : ∀ {findings}, g.nodes.mapM (checkNode g) = .ok findings →
      (checkReferenceCycles g (dependencies g (findings.flatMap Findings.uses)) = .ok () ↔
        IsAcyclic (Graph.ends g.edges ++ dependencies g (findings.flatMap Findings.uses))) := by
    intro findings hfindings
    rw [checkReferenceCycles_eq_ok_iff, connections, List.filter_eq_self.mpr fun e he ↦ ?_]
    rw [decide_eq_true_eq]
    rcases List.mem_append.mp he with he | he
    · exact h.ends_mem_order he
    · exact mem_order_of_mem_dependencies hfindings he
  constructor
  · rintro ⟨warnings, hok⟩
    obtain ⟨hnames, findings, hfindings, hacyclic, _⟩ := validate_eq_ok_iff.mp hok
    exact ⟨hnames, findings, hfindings, (hcycles hfindings).mp hacyclic⟩
  · rintro ⟨hnames, findings, hfindings, hacyclic⟩
    exact ⟨_, validate_eq_ok_iff.mpr
      ⟨hnames, findings, hfindings, (hcycles hfindings).mpr hacyclic, rfl⟩⟩

end Graph.Represents

/-! ## Workflows that are accepted -/

/-- A workflow has a plan exactly if its graph and each of its nodes pass their checks. -/
theorem exists_plan_iff {w : Workflow} :
    (∃ plan, Plan.ofWorkflow w = .ok plan) ↔ ∃ g, Graph.build w = .ok g ∧
      (∃ warnings, g.validate Schemas.standard = .ok warnings) ∧
      ∀ spec ∈ w.nodes, spec.check = .ok () := by
  constructor
  · rintro ⟨plan, hplan⟩
    have h := Plan.ofWorkflow_eq_ok_iff.mp hplan
    exact ⟨plan.graph, h.build_eq, h.valid, h.checked⟩
  · rintro ⟨g, hbuild, ⟨warnings, hvalid⟩, hchecked⟩
    obtain ⟨steps, hsteps⟩ : ∃ steps, (g.nodes.mapM fun node ↦
        (node.spec.task.map fun task ↦ (⟨node, task⟩ : Step)).mapError RunError.workflow) =
        .ok steps := by
      refine exists_mapM_eq_ok fun n hn ↦ ?_
      have hspec := (Graph.represents_of_build hbuild).spec_mem hn
      obtain ⟨task, htask, _⟩ := bind_eq_ok_iff.mp (hchecked n.spec hspec)
      exact ⟨⟨n, task⟩, mapError_eq_ok_iff.mpr (map_eq_ok_iff.mpr
        ⟨task, mapError_eq_ok_iff.mp htask, rfl⟩)⟩
    exact ⟨_, bind_eq_ok_iff.mpr ⟨g, mapError_eq_ok_iff.mpr hbuild, bind_eq_ok_iff.mpr
      ⟨warnings, mapError_eq_ok_iff.mpr hvalid, bind_eq_ok_iff.mpr
        ⟨(), forM_eq_ok_iff.mpr hchecked, bind_eq_ok_iff.mpr ⟨steps, hsteps, rfl⟩⟩⟩⟩⟩

/-! ## Parts of what is accepted -/

namespace Workflow.IsPart

variable {part whole : Workflow} {g g' : Graph}

section Graphs

variable (h : part.IsPart whole) (hnamed : whole.IsNamed) (hg : g.Represents whole)
  (hg' : g'.Represents part)

include h hnamed hg hg'

theorem checkDisplayNames (hnames : Validation.checkDisplayNames g = .ok ()) :
    Validation.checkDisplayNames g' = .ok () := by
  obtain ⟨hreserved, hnodup⟩ := checkDisplayNames_eq_ok_iff.mp hnames
  have hsubset := h.graph_nodes_subset hnamed hg hg'
  refine checkDisplayNames_eq_ok_iff.mpr ⟨fun n hn ↦ hreserved n (hsubset hn), ?_⟩
  exact hg'.nodup_nodes.map_on fun m hm n hn hname ↦
    List.inj_on_of_nodup_map hnodup (hsubset hm) (hsubset hn) hname

theorem goesBy {scope : String} {n : NamedNode} (hn : GoesBy g'.nodes scope n) :
    GoesBy g.nodes scope n := by
  obtain ⟨hmem, hgoes⟩ := hn
  refine ⟨h.graph_nodes_subset hnamed hg hg' hmem, hgoes.imp_right ?_⟩
  rintro ⟨hid, hnone⟩
  refine ⟨hid, fun m hm hname ↦ hnone m ?_ hname⟩
  -- A node outside of the part with this name would shadow the node.
  obtain ⟨spec, hspec, rfl⟩ := (hg.mem_nodes_iff hnamed).mp hm
  obtain ⟨spec', hspec', rfl⟩ := (hg'.mem_nodes_iff (h.isNamed hnamed)).mp hmem
  have hshadow : spec.explicitName? = some spec'.id := by
    rw [NodeSpec.explicitName?_eq_some_displayName (hnamed spec hspec), hname, ← hid]
    rfl
  exact (hg'.mem_nodes_iff (h.isNamed hnamed)).mpr
    ⟨spec, h.unshadowed spec' hspec' spec hspec hshadow, rfl⟩

theorem target?_of_target? (hnames : Validation.checkDisplayNames g = .ok ()) {use : Use}
    {n : NamedNode} (htarget : use.target? g' = some n) : use.target? g = some n := by
  have hnodup := (checkDisplayNames_eq_ok_iff.mp hnames).2
  rw [Use.target?] at htarget ⊢
  split at htarget
  · cases htarget
  · next hscope =>
    rw [if_neg hscope, hg.target?_eq_some_iff hnodup]
    exact h.goesBy hnamed hg hg' (goesBy_of_target? htarget)

theorem exists_validate {schemas : Schemas}
    (hvalid : ∃ warnings, g.validate schemas = .ok warnings) :
    ∃ warnings, g'.validate schemas = .ok warnings := by
  obtain ⟨hnames, findings, hfindings, hacyclic⟩ := hg.exists_validate_eq_ok_iff.mp hvalid
  have hsubset := h.graph_nodes_subset hnamed hg hg'
  have hedges : g'.edges ⊆ g.edges := by
    rw [hg.edges_eq, hg'.edges_eq]
    exact h.edges_subset
  have hcheck : ∀ n ∈ g'.nodes, ∃ f ∈ findings, checkNode g' n = .ok f := fun n hn ↦ by
    obtain ⟨f, hf, hok⟩ := exists_of_mapM_eq_ok hfindings (hsubset hn)
    exact ⟨f, hf, checkNode_of_subset hedges hok⟩
  obtain ⟨findings', hfindings'⟩ := exists_mapM_eq_ok fun n hn ↦
    (hcheck n hn).imp fun _ hf ↦ hf.2
  refine hg'.exists_validate_eq_ok_iff.mpr
    ⟨h.checkDisplayNames hnamed hg hg' hnames, findings', hfindings', hacyclic.mono fun e he ↦ ?_⟩
  rcases List.mem_append.mp he with he | he
  · exact List.mem_append_left _ (List.map_subset _ hedges he)
  · -- What the part depends on was found in the whole, and is the same node there.
    obtain ⟨use, huse, htarget⟩ := List.mem_filterMap.mp he
    obtain ⟨m, hm, rfl⟩ := Option.map_eq_some_iff.mp htarget
    obtain ⟨f', hf', huse⟩ := List.mem_flatMap.mp huse
    obtain ⟨n, hn, hok'⟩ := exists_of_mem_mapM hfindings' hf'
    obtain ⟨f, hf, hok⟩ := hcheck n hn
    have hsame : f' = f := Except.ok.inj (hok'.symm.trans hok)
    subst hsame
    refine List.mem_append_right _ (List.mem_filterMap.mpr
      ⟨use, List.mem_flatMap.mpr ⟨f', hf, huse⟩, ?_⟩)
    rw [h.target?_of_target? hnamed hg hg' hnames hm, Option.map_some]

end Graphs

/-- A part of a workflow that is accepted is accepted. -/
theorem exists_plan (h : part.IsPart whole) (hnamed : whole.IsNamed)
    (hplan : ∃ plan, Plan.ofWorkflow whole = .ok plan) :
    ∃ plan, Plan.ofWorkflow part = .ok plan := by
  obtain ⟨g, hbuild, hvalid, hchecked⟩ := exists_plan_iff.mp hplan
  obtain ⟨g', hbuild'⟩ := h.exists_build hbuild
  refine exists_plan_iff.mpr
    ⟨g', hbuild', ?_, fun spec hspec ↦ hchecked spec (h.nodes_subset hspec)⟩
  exact h.exists_validate hnamed (Graph.represents_of_build hbuild)
    (Graph.represents_of_build hbuild') hvalid

end Workflow.IsPart

end FlowRouting
