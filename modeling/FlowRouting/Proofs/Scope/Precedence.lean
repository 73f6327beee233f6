import FlowRouting.Proofs.Graph.Ancestors
import FlowRouting.Proofs.Run.Locality

/-!
# Which node a namespace denotes

A node sees its ancestors, and a namespace denotes one of them. Display names go before ids: a
namespace that is the display name of one ancestor denotes it, whatever the ids are; one that is the
display name of several is ambiguous; and only one that is no display name at all can be an id.
Nodes that are no ancestors have no part in this, and neither have their outputs.
-/

namespace FlowRouting

/-! ## The three outcomes of a look-up -/

section Outcomes

variable {nodes : List NamedNode} {scope : String}

private theorem binding?_of_shared {m n : NamedNode} (hm : m ∈ nodes) (hn : n ∈ nodes) (hne : m ≠ n)
    (hmname : m.displayName = scope) (hnname : n.displayName = scope) :
    binding? nodes scope =
      some (.ambiguous
        (sortTexts ((nodes.filter (·.displayName == scope)).map NamedNode.id))) := by
  have hmfilter := mem_named_iff.mpr ⟨hm, hmname⟩
  have hnfilter := mem_named_iff.mpr ⟨hn, hnname⟩
  rw [binding?_eq]
  generalize nodes.filter (·.displayName == scope) = named at hmfilter hnfilter
  rcases named with _ | ⟨a, _ | ⟨b, rest⟩⟩
  · exact absurd hmfilter List.not_mem_nil
  · rw [List.mem_singleton] at hmfilter hnfilter
    exact absurd (hmfilter.trans hnfilter.symm) hne
  · rfl

theorem binding?_of_unique (hnodup : nodes.Nodup) {n : NamedNode} (hn : n ∈ nodes)
    (hname : n.displayName = scope) (hunique : ∀ m ∈ nodes, m.displayName = scope → m = n) :
    binding? nodes scope = some (.node n.id) := by
  have hsingle : nodes.filter (·.displayName == scope) = [n] := by
    by_contra hother
    rcases ((hnodup.filter _).ne_singleton_iff n).mp hother with hnil | ⟨m, hm, hne⟩
    · exact List.not_mem_nil (hnil ▸ mem_named_iff.mpr ⟨hn, hname⟩)
    · obtain ⟨hm, hmname⟩ := mem_named_iff.mp hm
      exact hne (hunique m hm hmname)
  rw [binding?_eq, hsingle]

private theorem binding?_of_id {n : NamedNode} (hn : n ∈ nodes) (hid : n.id = scope)
    (hnone : ∀ m ∈ nodes, m.displayName ≠ scope) :
    binding? nodes scope = some (.node n.id) := by
  have hfilter : nodes.filter (·.displayName == scope) = [] :=
    List.filter_eq_nil_iff.mpr fun m hm ↦ by simpa using hnone m hm
  have hany : nodes.any (·.id == scope) = true :=
    List.any_eq_true.mpr ⟨n, hn, by simpa using hid⟩
  rw [binding?_eq, hfilter]
  simp only [hany, if_true, hid]

end Outcomes

/-! ## References to nodes -/

/-- What a path finds in the outputs of a node that a namespace denotes. -/
def OutputStore.find (outputs : OutputStore) (scope path : String) (n : NamedNode) :
    Except EvalError Value :=
  match outputs.get? n.id with
  | none => .error (.notYetComputed scope n.id)
  | some fields => .ok (outputAt fields path)

/-- **Which node a namespace denotes.** Let a reference have a namespace that is neither blank nor
reserved. If several ancestors have it as display name, the reference is ambiguous among all of
them; if one has it, it denotes that one; if none has it, it denotes the ancestor with this id; and
otherwise it is unknown. What is denoted is looked up in the store, and has to have an entry there.
Only the ancestors and their entries count. -/
theorem resolve_precedence {w : Workflow} {g : Graph} (hbuild : Graph.build w = .ok g)
    (current : String) (outputs : OutputStore) (run : RunContext) {reference scope path : String}
    (hsplit : Reference.split reference = ⟨scope, path⟩) (hblank : scope ≠ "")
    (hreserved : Reference.isReserved scope = false) :
    (∀ m ∈ g.ancestors current, ∀ n ∈ g.ancestors current, m ≠ n →
      m.displayName = scope → n.displayName = scope →
      ∃ ids, (g.scope current outputs run).resolve reference =
          .error (.ambiguousNamespace scope ids) ∧
        ids.Pairwise (· < ·) ∧
        ∀ id, id ∈ ids ↔ ∃ a ∈ g.ancestors current, a.displayName = scope ∧ a.id = id) ∧
    (∀ n ∈ g.ancestors current, n.displayName = scope →
      (∀ m ∈ g.ancestors current, m.displayName = scope → m = n) →
      (g.scope current outputs run).resolve reference = outputs.find scope path n) ∧
    (∀ n ∈ g.ancestors current, n.id = scope →
      (∀ m ∈ g.ancestors current, m.displayName ≠ scope) →
      (g.scope current outputs run).resolve reference = outputs.find scope path n) ∧
    ((∀ n ∈ g.ancestors current, n.displayName ≠ scope ∧ n.id ≠ scope) →
      (g.scope current outputs run).resolve reference =
        .error (.unknownVariable reference.trimBlanks)) ∧
    ∀ (g' : Graph) (current' : String) (outputs' : OutputStore),
      (g'.ancestors current').Perm (g.ancestors current) →
      (∀ n ∈ g.ancestors current, outputs'.get? n.id = outputs.get? n.id) →
      (g'.scope current' outputs' run).resolve reference =
        (g.scope current outputs run).resolve reference := by
  have h := Graph.represents_of_build hbuild
  have hsublist := g.sublist_ancestors current
  have hnodup : (g.ancestors current).Nodup := h.nodup_nodes.sublist hsublist
  have hids : ((g.ancestors current).map NamedNode.id).Nodup :=
    h.nodup_order.sublist (hsublist.map NamedNode.id)
  have hresolve := @Scope.resolve_eq (g.scope current outputs run) reference
  rw [hsplit] at hresolve
  replace hresolve := hresolve hblank hreserved
  have hdenoted : ∀ n, binding? (g.ancestors current) scope = some (.node n.id) →
      (g.scope current outputs run).resolve reference = outputs.find scope path n := by
    intro n hbound
    rw [hresolve, Graph.scope, hbound]
    rfl
  refine ⟨fun m hm n hn hne hmname hnname ↦ ?_,
    fun n hn hname hunique ↦ hdenoted n (binding?_of_unique hnodup hn hname hunique),
    fun n hn hid hnone ↦ hdenoted n (binding?_of_id hn hid hnone), fun hnone ↦ ?_,
    fun g' current' outputs' hperm hsame ↦ ?_⟩
  · refine ⟨sortTexts (((g.ancestors current).filter (·.displayName == scope)).map NamedNode.id),
      ?_, pairwise_lt_sortTexts (hids.sublist (List.filter_sublist.map _)), fun id ↦ ?_⟩
    · rw [hresolve, Graph.scope, binding?_of_shared hm hn hne hmname hnname]
    · rw [mem_sortTexts, List.mem_map]
      simp only [mem_named_iff, and_assoc]
  · rw [hresolve, Graph.scope, binding?_eq_none_iff.mpr hnone]
  · have hcongr : (g'.scope current' outputs' run).resolve =
        (g.scope current outputs run).resolve :=
      Scope.resolve_congr hperm rfl fun n hn ↦ hsame n (hperm.mem_iff.mp hn)
    rw [hcongr]

/-! ### Names that clash -/

def namedText (id displayName : String) : NamedNode :=
  ⟨{ id, nodeType := "text", displayName := some displayName }, displayName⟩

/-- What is above the reader: two nodes of one name, a node that has the id of another one as its
name, that other one, and one that is yet to come. -/
def clashingNodes : List NamedNode :=
  [namedText "late" "Late", namedText "final" "Final", namedText "named" "final",
    namedText "first" "Draft", namedText "second" "Draft"]

/-- A reader below nodes whose names clash, and a further node that is not above it. -/
def clashing : Workflow where
  id := Uuid.nil
  name := "clashing"
  nodes := (namedText "reader" "Reader" :: namedText "apart" "Apart" ::
    clashingNodes.reverse).map NamedNode.spec
  edges := clashingNodes.map fun n ↦ ⟨n.id, "reader", none, none⟩

def clashingGraph : Graph where
  nodes := clashingNodes ++ [namedText "apart" "Apart", namedText "reader" "Reader"]
  edges := clashing.edges

private theorem build_clashing : Graph.build clashing = .ok clashingGraph := rfl

def clashingOutputs : OutputStore :=
  [("named", [("text", .text "by name")]), ("final", [("text", .text "by id")])]

def clashingScope : Scope :=
  clashingGraph.scope "reader" clashingOutputs exampleContext

/-- The name of two nodes is ambiguous, a name goes before an id, an id is found where no name is in
the way, and what is not above the reader is unknown to it. -/
theorem resolve_precedence_clashing :
    Graph.build clashing = .ok clashingGraph ∧
      clashingGraph.ancestors "reader" = clashingNodes ∧
      (∃ ids, clashingScope.resolve "Draft.text" = .error (.ambiguousNamespace "Draft" ids) ∧
        ids.Pairwise (· < ·) ∧
        ∀ id, id ∈ ids ↔ ∃ n ∈ clashingNodes, n.displayName = "Draft" ∧ n.id = id) ∧
      clashingScope.resolve "final.text" = .ok (.text "by name") ∧
      clashingScope.resolve "late.text" = .error (.notYetComputed "late" "late") ∧
      clashingScope.resolve " Apart.text" = .error (.unknownVariable "Apart.text") := by
  have habove : clashingGraph.ancestors "reader" = clashingNodes := rfl
  have hall {reference scope path : String} (hsplit : Reference.split reference = ⟨scope, path⟩)
      (hblank : scope ≠ "") (hreserved : Reference.isReserved scope = false) :=
    resolve_precedence build_clashing "reader" clashingOutputs exampleContext hsplit hblank
      hreserved
  rw [habove] at hall
  have hdraft := @hall "Draft.text" "Draft" "text" (by decide) (by decide)
    (by decide)
  have hfinal := @hall "final.text" "final" "text" (by decide) (by decide)
    (by decide)
  have hlate := @hall "late.text" "late" "text" (by decide) (by decide)
    (by decide)
  have hapart := @hall " Apart.text" "Apart" "text" (by decide) (by decide)
    (by decide)
  refine ⟨build_clashing, habove, ?_, ?_, ?_, ?_⟩
  · exact hdraft.1 (namedText "first" "Draft") (by simp [clashingNodes])
      (namedText "second" "Draft") (by simp [clashingNodes]) (by simp [namedText]) rfl rfl
  · exact hfinal.2.1 (namedText "named" "final") (by simp [clashingNodes]) rfl
      (by simp [clashingNodes, namedText])
  · exact hlate.2.2.1 (namedText "late" "Late") (by simp [clashingNodes]) rfl (by decide)
  · exact hapart.2.2.2.1 (by decide)

end FlowRouting
