import FlowRouting.Node.Execution
import FlowRouting.Proofs.Condition.Choice
import FlowRouting.Proofs.Condition.Layout
import FlowRouting.Proofs.Condition.Verdict
import FlowRouting.Proofs.Template.Operands

/-!
# Why a condition fails

An operator finds fault with its operands and with nothing else. So an error that a routing fails
by, or passes over a path because of, is that of a reference of the guarded clauses, or a fault of
an operand, or it says that the condition lacks something, and a well-formed condition does not.
-/

namespace FlowRouting

/-! ## Operators -/

/-- The error is about an operand that an operator has got. -/
def EvalError.IsOperandFault : EvalError → Prop
  | .invalidOperand _ _ .missingValue => False
  | .typeMismatch .. | .invalidOperand .. => True
  | _ => False

/-- The error says that a condition lacks something: a path to choose, or a text to compare with. -/
def EvalError.IsLack : EvalError → Prop
  | .noPaths | .invalidOperand _ _ .missingValue => True
  | _ => False

/-- The computation fails only by a fault of an operand. -/
private def FaultsOperands (x : Except EvalError α) : Prop :=
  ∀ e, x = .error e → e.IsOperandFault

private theorem Operator.faultsOperands_apply (op : Operator) (left : Value) (right : String) :
    FaultsOperands (op.apply left right) := by
  intro e h
  have hjudges := op.judges_apply left right
  rw [h] at hjudges
  cases hjudges with
  | @refusal _ name operand fault hfault =>
    cases fault with
    | missingValue => exact absurd rfl hfault
    | _ => trivial
  | mismatch _ op expected found => trivial

/-! ## Clauses -/

/-- The references that evaluating a clause may look up. -/
def Clause.lookups (c : Clause) : List String :=
  Template.operandLookups c.inputField ++
    if c.operator.requiresValue then (c.value.map Template.references).getD [] else []

variable {vars : Variables} {e : EvalError}

/-- A clause fails by one of its references, or by a fault of an operand, or for lack of a text. -/
theorem Clause.lookup_or_fault_of_evaluate {c : Clause} (h : c.evaluate vars = .error e) :
    (∃ reference ∈ c.lookups, vars reference = .error e) ∨ e.IsOperandFault ∨
      e.IsLack ∧ c.lacksValue = true := by
  -- The left side is resolved first, and the right one only if the operator needs it.
  rw [evaluate] at h
  rcases bind_eq_error_iff.mp h with h | ⟨left, _, h⟩
  · obtain ⟨reference, hmem, hreference⟩ := Template.exists_lookup_of_resolveOperand_error h
    exact Or.inl ⟨reference, List.mem_append_left _ hmem, hreference⟩
  · by_cases hvalue : c.operator.requiresValue = true
    · simp only [hvalue, Bool.not_true, Bool.false_eq_true, if_false] at h
      cases hraw : c.value with
      | none =>
        rw [hraw] at h
        cases h
        refine Or.inr (Or.inr ⟨trivial, ?_⟩)
        rw [lacksValue, hvalue, hraw]
        rfl
      | some raw =>
        rw [hraw] at h
        rcases bind_eq_error_iff.mp h with h | ⟨operand, _, h⟩
        · obtain ⟨reference, hmem, hreference⟩ :=
            Template.exists_reference_of_interpolate_error h
          refine Or.inl ⟨reference, List.mem_append_right _ ?_, hreference⟩
          rw [if_pos hvalue, hraw]
          exact hmem
        · exact Or.inr (Or.inl (Operator.faultsOperands_apply _ _ _ e h))
    · rw [Bool.not_eq_true] at hvalue
      simp only [hvalue, Bool.not_false, if_true] at h
      exact Or.inr (Or.inl (Operator.faultsOperands_apply _ _ _ e h))

/-! ## Paths -/

private theorem Path.exists_clause_of_holds_error {p : Path} {failure : ClauseFailure}
    (h : p.holds vars = .error failure) :
    ∃ c ∈ p.clauses, c.evaluate vars = .error failure.error := by
  obtain ⟨c, ⟨before, after, hclauses, _, hfails⟩, _⟩ := holds_eq_error_iff.mp h
  refine ⟨c, ?_, hfails⟩
  rw [hclauses]
  exact List.mem_append_right _ List.mem_cons_self

/-! ## Routing -/

/-- The error of a routing, and those for which it passes over paths. -/
def Routing.Meets (r : Routing) (e : EvalError) : Prop :=
  r.outcome = .error e ∨ ∃ d ∈ r.downgrades, d.failure.error = e

private theorem Routing.exists_path_of_tryPaths {mode : RoutingMode} {fallback : Path} {index : Nat}
    {paths : List Path} {e : EvalError}
    (h : (tryPaths vars mode fallback index paths).Meets e) :
    ∃ p ∈ paths, ∃ failure, p.holds vars = .error failure ∧ failure.error = e := by
  induction paths generalizing index with
  | nil => rcases h with h | ⟨d, hd, _⟩ <;> contradiction
  | cons p paths ih =>
    have hlater : ∀ {index}, (tryPaths vars mode fallback index paths).Meets e →
        ∃ q ∈ p :: paths, ∃ failure, q.holds vars = .error failure ∧ failure.error = e := by
      intro index h
      obtain ⟨q, hq, hfails⟩ := ih h
      exact ⟨q, List.mem_cons_of_mem _ hq, hfails⟩
    cases hp : p.holds vars with
    | ok outcome =>
      cases outcome with
      | true =>
        simp only [tryPaths, hp] at h
        rcases h with h | ⟨d, hd, _⟩ <;> contradiction
      | false =>
        simp only [tryPaths, hp] at h
        exact hlater h
    | error failure =>
      -- Only in lenient mode the later paths are tried as well.
      cases mode with
      | strict =>
        simp only [tryPaths, hp] at h
        rcases h with h | ⟨d, hd, _⟩
        · cases h
          exact ⟨p, List.mem_cons_self, failure, hp, rfl⟩
        · contradiction
      | lenient =>
        simp only [tryPaths, hp] at h
        rcases h with h | ⟨d, hd, he⟩
        · exact hlater (Or.inl h)
        · rcases List.mem_cons.mp hd with rfl | hd
          · exact ⟨p, List.mem_cons_self, failure, hp, he⟩
          · exact hlater (Or.inr ⟨d, hd, he⟩)

/-- The references that choosing a path may look up. -/
def Condition.lookups (c : Condition) : List String :=
  c.guarded.flatMap fun p ↦ p.clauses.flatMap Clause.lookups

/-- What choosing a path meets is the error of a reference that it looks up, or a fault of an
operand, unless the condition is not well-formed. -/
theorem Condition.lookup_or_fault_of_choose {c : Condition} {mode : RoutingMode}
    (h : (Routing.choose vars mode c.paths).Meets e) :
    (∃ reference ∈ c.lookups, vars reference = .error e) ∨ e.IsOperandFault ∨
      e.IsLack ∧ ¬c.IsWellFormed := by
  rw [Routing.choose] at h
  split at h
  · next hlast =>
    rcases h with h | ⟨d, hd, _⟩
    · cases h
      refine Or.inr (Or.inr ⟨trivial, fun hformed ↦ hformed.paths_ne_nil ?_⟩)
      exact List.getLast?_eq_none_iff.mp hlast
    · contradiction
  · obtain ⟨p, hp, failure, hfailure, he⟩ := Routing.exists_path_of_tryPaths h
    obtain ⟨clause, hclause, hevaluate⟩ := Path.exists_clause_of_holds_error hfailure
    rw [he] at hevaluate
    rcases Clause.lookup_or_fault_of_evaluate hevaluate with ⟨reference, hmem, hreference⟩ |
      hfault | ⟨hlack, hvalue⟩
    · exact Or.inl ⟨reference, List.mem_flatMap.mpr
        ⟨p, hp, List.mem_flatMap.mpr ⟨clause, hclause, hmem⟩⟩, hreference⟩
    · exact Or.inr (Or.inl hfault)
    · refine Or.inr (Or.inr ⟨hlack, fun hformed ↦ ?_⟩)
      have hmem : clause ∈ c.clauses :=
        List.mem_flatMap.mpr ⟨p, List.dropLast_subset _ hp, hclause⟩
      rw [hformed.lacksValue clause hmem] at hvalue
      cases hvalue

/-! ## The node of a condition -/

/-- The output of a condition that took a path. -/
def Selection.output (s : Selection) (variableName : Option String) : NodeOutput where
  outputs := s.toOutputs variableName
  branch := some s.pathId

theorem NodeContext.result_route (ctx : NodeContext) (c : Condition) :
    (ctx.route c).result =
      (evaluating (Routing.choose ctx.bindings (c.mode.getD ctx.routing) c.paths).outcome).map
        fun s ↦ s.output c.variableName := by
  rw [route]
  cases hchoose : (Routing.choose ctx.bindings (c.mode.getD ctx.routing) c.paths).outcome with
  | error e => rfl
  | ok s => rfl

theorem NodeSpec.exists_taskAs {spec : NodeSpec} {task : Task} (h : spec.task = .ok task) :
    ∃ t, spec.taskAs t = .ok task ∧ (spec.isCondition = true ↔ t = .condition) := by
  rw [NodeSpec.task] at h
  split at h
  · cases h
  · next t ht =>
    refine ⟨t, mapError_eq_ok_iff.mp h, ?_⟩
    rw [NodeSpec.isCondition, ← NodeType.name_of_ofName? ht, beq_iff_eq]
    cases t <;> decide

theorem evaluating_eq_error_iff {α : Type} {result : Except EvalError α} {e : EvalError} :
    evaluating result = .error (.evaluation e) ↔ result = .error e := by
  rw [evaluating, mapError_eq_error_iff]
  simp

end FlowRouting
