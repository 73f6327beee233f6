import FlowRouting.Graph.Basic
import FlowRouting.Proofs.Text.Digits
import FlowRouting.Proofs.Text.Splitting
import FlowRouting.Proofs.Text.Trimming
import Mathlib.Data.List.Pairwise

/-!
# Names of nodes

A node has the name that its author gave it. One without a name is named after its type: the slug of
the type and the number of earlier nodes of the type, with an underscore between them.

A slug may have underscores and digits of its own, so such a name does not show at its front where
the number begins. It does at its end: a number has no underscore, so the last one of the name is
the one in front of it. Hence names that are derived in this way are the same only if both the slugs
and the numbers are. The numbers of two nodes of one type differ, whoever named the nodes around
them, since the later node counts the earlier one.
-/

namespace FlowRouting

/-! ## Derived names -/

/-- The name of a node of a type behind some number of nodes of this type. -/
def derivedName (nodeType : String) (ordinal : Nat) : String :=
  slug nodeType ++ "_" ++ String.ofList (Nat.toDigits 10 ordinal)

section DerivedName

variable {nodeType nodeType' : String} {ordinal ordinal' : Nat}

private theorem toList_derivedName (nodeType : String) (ordinal : Nat) :
    (derivedName nodeType ordinal).toList =
      (slug nodeType).toList ++ '_' :: Nat.toDigits 10 ordinal := by
  simp [derivedName]

theorem underscore_mem_derivedName : '_' ∈ (derivedName nodeType ordinal).toList := by
  rw [toList_derivedName]
  exact List.mem_append_right _ List.mem_cons_self

/-- Read from its end, a derived name is cut in front of its number. -/
theorem splitOnce_reverse_derivedName (nodeType : String) (ordinal : Nat) :
    Text.splitOnce '_' (derivedName nodeType ordinal).toList.reverse =
      some ((Nat.toDigits 10 ordinal).reverse, (slug nodeType).toList.reverse) := by
  have hdigits : '_' ∉ (Nat.toDigits 10 ordinal).reverse := fun h ↦
    absurd (Text.isDigit_of_mem_toDigits (List.mem_reverse.mp h)) (by decide)
  rw [toList_derivedName, List.reverse_append, List.reverse_cons, List.append_assoc,
    List.singleton_append, Text.splitOnce_append_cons hdigits]

private theorem derivedName_inj :
    derivedName nodeType ordinal = derivedName nodeType' ordinal' ↔
      slug nodeType = slug nodeType' ∧ ordinal = ordinal' := by
  constructor
  · intro h
    have hcut := splitOnce_reverse_derivedName nodeType ordinal
    rw [h, splitOnce_reverse_derivedName, Option.some.injEq, Prod.mk.injEq, List.reverse_inj,
      List.reverse_inj, String.toList_inj] at hcut
    obtain ⟨hdigits, hslug⟩ := hcut
    have hordinal := congrArg (Text.foldDigits 0) hdigits
    rw [Text.foldDigits_toDigits, Text.foldDigits_toDigits] at hordinal
    exact ⟨hslug.symm, hordinal.symm⟩
  · rintro ⟨hslug, rfl⟩
    rw [derivedName, derivedName, hslug]

theorem isAlphanum_or_eq_of_mem_derivedName {c : Char}
    (h : c ∈ (derivedName nodeType ordinal).toList) : c.isAlphanum = true ∨ c = '_' := by
  rw [toList_derivedName, slug, String.toList_ofList] at h
  rcases List.mem_append.mp h with h | h
  · obtain ⟨d, -, rfl⟩ := List.mem_map.mp h
    by_cases hd : d.isAlphanum = true
    · rw [if_pos hd]
      exact .inl (isAlphanum_toLower hd)
    · rw [if_neg hd]
      exact .inr rfl
  · rcases List.mem_cons.mp h with rfl | h
    · exact .inr rfl
    · have hdigit : c.isDigit = true := Text.isDigit_of_mem_toDigits h
      exact .inl (by rw [Char.isAlphanum, hdigit, Bool.or_true])

theorem isBlank_of_mem_derivedName {c : Char} (h : c ∈ (derivedName nodeType ordinal).toList) :
    isBlank c = false := by
  rcases isAlphanum_or_eq_of_mem_derivedName h with hc | rfl
  · exact isBlank_of_isAlphanum hc
  · decide

end DerivedName

/-! ## The name of a node -/

namespace NodeSpec

/-- The author gave the node no name, or a blank one. -/
def IsUnnamed (spec : NodeSpec) : Prop :=
  ∀ name ∈ spec.displayName, name.isBlank = true

variable {spec : NodeSpec}

theorem explicitName?_eq_none_iff : spec.explicitName? = none ↔ spec.IsUnnamed := by
  rw [explicitName?, IsUnnamed]
  cases spec.displayName with
  | none => simp
  | some name => simp [String.isBlank, String.trimBlanks]

private theorem isTrimmed_of_explicitName? {name : String} (h : spec.explicitName? = some name) :
    name ≠ "" ∧ Text.IsTrimmed name.toList := by
  obtain ⟨hwritten, hne⟩ := Option.filter_eq_some_iff.mp h
  obtain ⟨written, -, rfl⟩ := Option.map_eq_some_iff.mp hwritten
  refine ⟨by simpa using hne, ?_⟩
  rw [String.trimBlanks, String.toList_ofList]
  exact Text.isTrimmed_trim written.toList

theorem nameBehind_of_explicitName? {name : String} (h : spec.explicitName? = some name)
    (earlier : List NodeSpec) : spec.nameBehind earlier = name := by
  rw [nameBehind, h]

theorem IsUnnamed.nameBehind_eq (h : spec.IsUnnamed) (earlier : List NodeSpec) :
    spec.nameBehind earlier =
      derivedName spec.nodeType (earlier.countP fun other ↦ other.nodeType == spec.nodeType) := by
  rw [nameBehind, explicitName?_eq_none_iff.mpr h, derivedName]

end NodeSpec

/-! ## The names along a list of nodes -/

section NameNodes

variable {earlier specs : List NodeSpec} {n : NamedNode}

@[simp] theorem map_spec_nameNodes (earlier specs : List NodeSpec) :
    (nameNodes earlier specs).map NamedNode.spec = specs := by
  induction specs generalizing earlier with
  | nil => rfl
  | cons spec specs ih => rw [nameNodes, List.map_cons, ih]

theorem map_id_nameNodes (earlier specs : List NodeSpec) :
    (nameNodes earlier specs).map NamedNode.id = specs.map NodeSpec.id := by
  have hid : NamedNode.id = NodeSpec.id ∘ NamedNode.spec := rfl
  rw [hid, ← List.map_map, map_spec_nameNodes]

private theorem exists_nameBehind_of_mem (h : n ∈ nameNodes earlier specs) :
    ∃ before after, specs = before ++ n.spec :: after ∧
      n.displayName = n.spec.nameBehind (earlier ++ before) := by
  induction specs generalizing earlier with
  | nil => exact absurd h List.not_mem_nil
  | cons spec specs ih =>
    rw [nameNodes] at h
    rcases List.mem_cons.mp h with rfl | h
    · exact ⟨[], specs, rfl, by rw [List.append_nil]⟩
    · obtain ⟨before, after, rfl, hname⟩ := ih h
      refine ⟨spec :: before, after, rfl, ?_⟩
      rw [hname, List.append_assoc, List.singleton_append]

/-- Every name is one by the author, or derived. -/
theorem explicitName?_or_derivedName (h : n ∈ nameNodes earlier specs) :
    n.spec.explicitName? = some n.displayName ∨
      n.spec.IsUnnamed ∧ ∃ ordinal, n.displayName = derivedName n.spec.nodeType ordinal := by
  obtain ⟨before, after, -, hname⟩ := exists_nameBehind_of_mem h
  cases hexplicit : n.spec.explicitName? with
  | none =>
    have hunnamed := NodeSpec.explicitName?_eq_none_iff.mp hexplicit
    exact .inr ⟨hunnamed, _, hname.trans (hunnamed.nameBehind_eq _)⟩
  | some name =>
    rw [hname, NodeSpec.nameBehind_of_explicitName? hexplicit]
    exact .inl rfl

theorem displayName_ne_empty (h : n ∈ nameNodes earlier specs) : n.displayName ≠ "" := by
  rcases explicitName?_or_derivedName h with hname | ⟨-, ordinal, hname⟩
  · exact (NodeSpec.isTrimmed_of_explicitName? hname).1
  · intro hempty
    have hmem : '_' ∈ n.displayName.toList := hname ▸ underscore_mem_derivedName
    rw [hempty] at hmem
    exact absurd hmem List.not_mem_nil

theorem isTrimmed_displayName (h : n ∈ nameNodes earlier specs) :
    Text.IsTrimmed n.displayName.toList := by
  rcases explicitName?_or_derivedName h with hname | ⟨-, ordinal, hname⟩
  · exact (NodeSpec.isTrimmed_of_explicitName? hname).2
  · rw [hname]
    exact .of_forall fun _ hc ↦ isBlank_of_mem_derivedName hc

/-- Two nodes without a name of their own get the same one only if their types differ and have the
same slug. -/
def NamedNode.SharesBySlug (m n : NamedNode) : Prop :=
  m.spec.IsUnnamed → n.spec.IsUnnamed → m.displayName = n.displayName →
    slug m.spec.nodeType = slug n.spec.nodeType ∧ m.spec.nodeType ≠ n.spec.nodeType

instance : Std.Symm NamedNode.SharesBySlug :=
  ⟨fun _ _ h hn hm hsame ↦ (h hm hn hsame.symm).imp Eq.symm Ne.symm⟩

/-- A node counts the nodes of its type in front of it, so none of them gets its name. -/
theorem pairwise_nameNodes (earlier specs : List NodeSpec) :
    (nameNodes earlier specs).Pairwise NamedNode.SharesBySlug := by
  induction specs generalizing earlier with
  | nil => exact .nil
  | cons spec specs ih =>
    rw [nameNodes]
    refine .cons ?_ (ih _)
    intro n hn hspec hunnamed hsame
    obtain ⟨before, after, -, hname⟩ := exists_nameBehind_of_mem hn
    rw [hname, hspec.nameBehind_eq, hunnamed.nameBehind_eq, derivedName_inj] at hsame
    obtain ⟨hslug, hordinal⟩ := hsame
    refine ⟨hslug, fun htype ↦ ?_⟩
    -- Among the nodes in front of the later one there is the earlier one.
    have hcounted : (spec.nodeType == n.spec.nodeType) = true := beq_iff_eq.mpr htype
    rw [htype, List.countP_append, List.countP_append, List.countP_singleton, if_pos hcounted]
      at hordinal
    omega

theorem sharesBySlug_of_ne {m : NamedNode} (hm : m ∈ nameNodes earlier specs)
    (hn : n ∈ nameNodes earlier specs) (hne : m ≠ n) : m.SharesBySlug n :=
  (pairwise_nameNodes earlier specs).forall hm hn hne

end NameNodes

end FlowRouting
