import FlowRouting.Proofs.Condition.Failure
import FlowRouting.Proofs.Template.Spans
import FlowRouting.Validation.Basic

/-!
# What a condition reads

The references that evaluating a clause may look up can be read off its texts, and the checks before
a run read the same ones, except that they pass over a left side that is blank. So which path is
taken depends on the references that the checks have seen, and variables that agree about these
route alike.
-/

namespace FlowRouting

/-- A clause has the references that evaluating it may look up, except for a blank left side. -/
theorem Clause.mem_clauseReferences_or_blank {c : Clause} {reference : String}
    (h : reference ∈ c.lookups) :
    reference ∈ Validation.clauseReferences c ∨
      c.inputField.isBlank = true ∧ reference = "" := by
  rw [Clause.lookups] at h
  rcases List.mem_append.mp h with h | h
  · cases hopening : Template.hasOpening c.inputField with
    | true =>
      rw [Template.operandLookups_of_hasOpening hopening] at h
      refine Or.inl (List.mem_append_left _ ?_)
      rw [Template.operandReferences]
      simpa [Template.hasOpening_trimBlanks, hopening] using h
    | false =>
      rw [Template.operandLookups_of_bare hopening, List.mem_singleton] at h
      by_cases hblank : c.inputField.trimBlanks = ""
      · refine Or.inr ⟨?_, h.trans hblank⟩
        rw [String.isBlank, List.isEmpty_iff]
        exact String.ofList_eq_empty_iff.mp hblank
      · refine Or.inl (List.mem_append_left _ ?_)
        rw [Template.operandReferences]
        simp [Template.hasOpening_trimBlanks, hopening, hblank, h]
  · refine Or.inl (List.mem_append_right _ ?_)
    split at h
    · exact h
    · exact absurd h List.not_mem_nil

/-! ## Variables that agree -/

section Agreement

variable {vars vars' : Variables}

private theorem Template.resolveOperand_congr {field : String}
    (h : ∀ reference ∈ operandLookups field, vars reference = vars' reference) :
    resolveOperand vars field = resolveOperand vars' field := by
  cases hopening : hasOpening field with
  | false =>
    rw [operandLookups_of_bare hopening] at h
    rw [resolveOperand_of_bare hopening, resolveOperand_of_bare hopening]
    exact h _ (List.mem_singleton_self _)
  | true =>
    rw [operandLookups_of_hasOpening hopening] at h
    rcases resolveOperand_cases hopening with ⟨reference, hreference, hresolve⟩ | hresolve
    · rw [hresolve, hresolve]
      exact h reference (hreference ▸ List.mem_singleton_self _)
    · rw [hresolve, hresolve, interpolate_congr h]

private theorem Clause.evaluate_congr {c : Clause}
    (h : ∀ reference ∈ c.lookups, vars reference = vars' reference) :
    c.evaluate vars = c.evaluate vars' := by
  rw [lookups, List.forall_mem_append] at h
  rw [evaluate, evaluate, Template.resolveOperand_congr h.1]
  cases hvalue : c.operator.requiresValue with
  | false => rfl
  | true =>
    cases hraw : c.value with
    | none => rfl
    | some raw =>
      have hright := h.2
      rw [if_pos hvalue, hraw] at hright
      simp only [Template.interpolate_congr hright]

private theorem Path.combine_congr {decisive : Bool} {clauses : List Clause}
    (h : ∀ c ∈ clauses, c.evaluate vars = c.evaluate vars') :
    combine vars decisive clauses = combine vars' decisive clauses := by
  induction clauses with
  | nil => rfl
  | cons c clauses ih =>
    obtain ⟨hc, hclauses⟩ := List.forall_mem_cons.mp h
    rw [combine, combine, hc, ih hclauses]

private theorem Path.holds_congr {p : Path}
    (h : ∀ c ∈ p.clauses, c.evaluate vars = c.evaluate vars') : p.holds vars = p.holds vars' := by
  rw [holds, holds, combine_congr h]

namespace Routing

private theorem tryPaths_congr {mode : RoutingMode} {fallback : Path} {index : Nat}
    {paths : List Path} (h : ∀ p ∈ paths, p.holds vars = p.holds vars') :
    tryPaths vars mode fallback index paths = tryPaths vars' mode fallback index paths := by
  induction paths generalizing index with
  | nil => rfl
  | cons p paths ih =>
    obtain ⟨hp, hpaths⟩ := List.forall_mem_cons.mp h
    simp only [tryPaths, hp, ih hpaths]

private theorem choose_congr {mode : RoutingMode} {paths : List Path}
    (h : ∀ p ∈ paths.dropLast, p.holds vars = p.holds vars') :
    choose vars mode paths = choose vars' mode paths := by
  rw [choose, choose]
  cases paths.getLast? with
  | none => rfl
  | some fallback => exact tryPaths_congr h

/-- **Routing depends on the references that the checks see.** If the guarded clauses have left
sides that are not blank, then variables that agree about the references of these clauses choose the
same path or fail by the same error, and pass over the same paths for the same reasons. -/
theorem choose_eq_of_agree {paths : List Path} (mode : RoutingMode)
    (hfields : ∀ p ∈ paths.dropLast, ∀ c ∈ p.clauses, c.inputField.isBlank = false)
    (hagree : ∀ p ∈ paths.dropLast, ∀ c ∈ p.clauses,
      ∀ reference ∈ Validation.clauseReferences c, vars reference = vars' reference) :
    choose vars mode paths = choose vars' mode paths := by
  refine choose_congr fun p hp ↦ Path.holds_congr fun c hc ↦
    Clause.evaluate_congr fun reference hreference ↦ ?_
  rcases Clause.mem_clauseReferences_or_blank hreference with hseen | ⟨hblank, _⟩
  · exact hagree p hp c hc reference hseen
  · rw [hfields p hp c hc] at hblank
    cases hblank

/-! ### A draft that nobody asks for

The first path asks for an owner that there is none of, the second for a grade, its limit and an
author. Only the fallback asks for the draft, and its clauses are not looked at. -/

def reviewed (draft : Value) : Variables :=
  Variables.ofDict
    [("draft", draft), ("limits", .object [("low", .text "3")]),
      ("review", .object [("author", .text "Ada"), ("grade", .number 4)])]

/-- A clause about the owner, two about the review, and one about the draft. -/
def reviewPaths : List Path :=
  [⟨"owned", "Owned", [⟨"c1", "\x7b\x7bowner.name\x7d\x7d ", .equals, some "Ada"⟩], .and⟩,
    ⟨"good", "Good",
      [⟨"c2", " review.grade", .greaterThan, some "\x7b\x7b limits.low \x7d\x7d"⟩,
        ⟨"c3", "by \x7b\x7breview.author\x7d\x7d", .startsWith, some "by A"⟩], .and⟩,
    ⟨"else", "Else", [⟨"c4", "draft", .isNotEmpty, none⟩], .and⟩]

/-- Whatever the draft is, lenient mode passes over the first path and takes the second. -/
theorem choose_eq_of_agree_reviewed :
    (∀ p ∈ reviewPaths.dropLast, ∀ c ∈ p.clauses, c.inputField.isBlank = false) ∧
      reviewed (.text "first") "draft" ≠ reviewed .null "draft" ∧
      choose (reviewed (.text "first")) .lenient reviewPaths =
        choose (reviewed .null) .lenient reviewPaths ∧
      (choose (reviewed .null) .lenient reviewPaths).outcome = .ok ⟨"good", "Good", true, 1⟩ := by
  have hfields : ∀ p ∈ reviewPaths.dropLast, ∀ c ∈ p.clauses, c.inputField.isBlank = false := by
    decide
  have hreferences : (reviewPaths.dropLast.flatMap fun p ↦
      p.clauses.flatMap Validation.clauseReferences) =
        ["owner.name", "review.grade", "limits.low", "review.author"] := by decide
  have hagree : ∀ reference ∈ ["owner.name", "review.grade", "limits.low", "review.author"],
      reviewed (.text "first") reference = reviewed .null reference := by
    simp only [List.forall_mem_cons]
    exact ⟨rfl, rfl, rfl, rfl, nofun⟩
  refine ⟨hfields, nofun, choose_eq_of_agree .lenient hfields fun p hp c hc reference h ↦ ?_, ?_⟩
  · refine hagree reference (hreferences ▸ ?_)
    exact List.mem_flatMap.mpr ⟨p, hp, List.mem_flatMap.mpr ⟨c, hc, h⟩⟩
  · decide +kernel

end Routing

end Agreement

end FlowRouting
