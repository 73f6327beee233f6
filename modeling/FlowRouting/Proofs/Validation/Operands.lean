import FlowRouting.Proofs.Calendar.Reading
import FlowRouting.Proofs.Condition.Layout
import FlowRouting.Proofs.Condition.References
import FlowRouting.Proofs.Validation.Report

/-!
# Which texts pass the checks

The checks and the operators read the text of a clause each in their own way: the checks cut a range
of dates before they trim its ends, and a date is trimmed again when it is parsed. But the texts
that pass are exactly those that the operator takes. So the text of a clause without any opening
braces is rejected exactly if the operator would refuse it.

That is not to say that a clause that passes can be evaluated. `Validation.Evades` lists the texts
that are known before a run and pass although they lead to no verdict: one that is no number, for a
comparison of numbers, and one that the operator refuses, if it has opening braces that nothing
closes.
-/

namespace FlowRouting

private theorem Template.references_eq_nil_of_hasOpening {s : String} (h : hasOpening s = false) :
    references s = [] := by
  obtain ⟨cut, hcut⟩ := exists_isCut s.toList
  rw [references_eq hcut]
  cases hcut with
  | whole _ => rfl
  | piece hbegins _ =>
    rw [hasOpening, String.hasPart, ← Bool.not_eq_true, Text.hasPart_iff] at h
    refine absurd ?_ h
    rw [hbegins.eq, source_span_append]
    exact ⟨_, _, List.append_assoc _ _ _⟩

private theorem Scope.resolve_ne_invalidOperand (s : Scope) {reference name operand : String}
    {fault : OperandFault} : s.resolve reference ≠ .error (.invalidOperand name operand fault) := by
  intro h
  rcases error_cases h with ⟨x, he⟩ | ⟨ids, _, he⟩ | ⟨id, he⟩
  · cases he
  · cases he
  · cases he

namespace Validation

variable {c : Clause} {value : String}

/-! ## Texts that pass -/

private theorem staticDate_eq_ok_iff {s : String} {t : Timestamp} :
    staticDate c s = .ok t ↔ Timestamp.parse? s = some t := by
  rw [staticDate]
  split <;> simp [*]

private theorem checkOperand_dateBetween_eq_ok_iff (hop : c.operator = .dateBetween) :
    checkOperand c value = .ok () ↔ Operator.Takes .dateBetween value := by
  simp only [checkOperand, hop]
  split
  · next start finish hpieces =>
    have hitems : Operator.listItems value = [start.trimBlanks, finish.trimBlanks] :=
      congrArg (List.map String.trimBlanks) hpieces
    simp only [Operator.takes_dateBetween_iff hitems, Timestamp.parse?_trimBlanks,
      ← staticDate_eq_ok_iff (c := c)]
    constructor
    · intro h
      obtain ⟨s, hs, h⟩ := bind_eq_ok_iff.mp h
      obtain ⟨t, ht, h⟩ := bind_eq_ok_iff.mp h
      refine ⟨s, t, hs, ht, fun hreversed ↦ ?_⟩
      rw [if_pos hreversed] at h
      cases h
    · rintro ⟨s, t, hs, ht, hordered⟩
      refine bind_eq_ok_iff.mpr ⟨s, hs, bind_eq_ok_iff.mpr ⟨t, ht, ?_⟩⟩
      rw [if_neg hordered]
      rfl
  · next hpieces =>
    -- A text of more or fewer pieces is no range.
    refine iff_of_false nofun ?_
    rintro ⟨start, finish, -, -, hitems, -⟩
    obtain ⟨start', rest, hstart, -, hrest⟩ := List.map_eq_cons_iff.mp hitems
    obtain ⟨finish', rest', rfl, -, hnil⟩ := List.map_eq_cons_iff.mp hrest
    cases List.map_eq_nil_iff.mp hnil
    exact hpieces _ _ hstart

/-- A text passes exactly if the operator takes it. -/
theorem checkOperand_eq_ok_iff : checkOperand c value = .ok () ↔ c.operator.Takes value := by
  cases hop : c.operator with
  | matchesRegex =>
    simp only [checkOperand, hop, Operator.Takes]
    split <;> simp [*]
  | lengthEquals | lengthGreaterThan | lengthLessThan =>
    simp only [checkOperand, hop, Operator.Takes]
    cases Number.parse? value <;> simp
  | dateBefore | dateAfter | dateEquals =>
    simp only [checkOperand, hop, Operator.Takes, map_eq_ok_iff, staticDate_eq_ok_iff, and_true]
  | dateBetween => exact checkOperand_dateBetween_eq_ok_iff hop
  | typeEquals =>
    simp only [checkOperand, hop, Operator.Takes, ← Option.isSome_iff_exists]
    split <;> simp [*]
  | _ => exact iff_of_true (by simp only [checkOperand, hop]) trivial

/-! ## Texts without braces -/

private theorem not_takes_of_evaluate {s : Scope} {name operand : String} {fault : OperandFault}
    (hvalue : c.value = some value) (hliteral : Template.references value = [])
    (h : c.evaluate s.resolve = .error (.invalidOperand name operand fault)) :
    ¬c.operator.Takes value := by
  rw [Clause.evaluate] at h
  -- It is not the left side that is refused, as resolving it refuses no operand.
  rcases bind_eq_error_iff.mp h with h | ⟨left, _, h⟩
  · obtain ⟨reference, _, hreference⟩ := Template.exists_lookup_of_resolveOperand_error h
    exact absurd hreference s.resolve_ne_invalidOperand
  · cases hneeds : c.operator.requiresValue with
    | true =>
      simp only [hneeds, hvalue, Template.interpolate_of_references_eq_nil hliteral,
        Bool.not_true, Bool.false_eq_true, if_false] at h
      have hjudges := c.operator.judges_apply left value
      rw [show c.operator.apply left value = _ from h] at hjudges
      exact hjudges.of_refusal
    | false =>
      simp only [hneeds, Bool.not_false, if_true] at h
      -- The tests for emptiness look at no text.
      cases hop : c.operator with
      | isEmpty | isNotEmpty =>
        rw [hop] at h
        cases h
      | _ =>
        rw [hop] at hneeds
        cases hneeds

/-- **The checks reject what the operator would refuse.** A text without opening braces passes
exactly if there is no value with which its operator would refuse to compare it. So a clause that
has passed refuses nothing in any run, and a text that leads to a verdict with any value passes. -/
theorem checkStaticOperand_exact (hvalue : c.value = some value)
    (hstatic : Template.hasOpening value = false) :
    (checkStaticOperand c = .ok () ↔
      ¬∃ left name operand fault,
        c.operator.apply left value = .error (.invalidOperand name operand fault)) ∧
    (checkStaticOperand c = .ok () → ∀ (s : Scope) (name operand : String) (fault : OperandFault),
      c.evaluate s.resolve ≠ .error (.invalidOperand name operand fault)) ∧
    ((∃ left b, c.operator.apply left value = .ok b) → checkStaticOperand c = .ok ()) := by
  have hcheck : checkStaticOperand c = .ok () ↔ c.operator.Takes value := by
    rw [checkStaticOperand, hvalue]
    dsimp only
    rw [hstatic]
    exact checkOperand_eq_ok_iff
  refine ⟨?_, fun hok s name operand fault h ↦ ?_, fun hverdict ↦ ?_⟩
  · rw [hcheck, Operator.exists_refusal_iff, not_not]
  · have hliteral := Template.references_eq_nil_of_hasOpening hstatic
    exact not_takes_of_evaluate hvalue hliteral h (hcheck.mp hok)
  · exact hcheck.mpr (Operator.exists_verdict_iff.mp hverdict).1

/-- A clause with a range of dates, in which the blanks do not matter. -/
def stayClause : Clause :=
  ⟨"c1", "booking.day", .dateBetween, some " 2024-01-01 , 2024-01-31"⟩

/-- A clause with a length that is negative. -/
def seatsClause : Clause :=
  ⟨"c2", "booking.seats", .lengthEquals, some "-1"⟩

/-- The range is refused nowhere, and there is a value for which the length is. -/
theorem checkStaticOperand_exact_booking :
    (¬∃ left name operand fault, Operator.dateBetween.apply left " 2024-01-01 , 2024-01-31" =
        .error (.invalidOperand name operand fault)) ∧
      (∀ (s : Scope) (name operand : String) (fault : OperandFault),
        stayClause.evaluate s.resolve ≠ .error (.invalidOperand name operand fault)) ∧
      ∃ left name operand fault, Operator.lengthEquals.apply left "-1" =
        .error (.invalidOperand name operand fault) := by
  have hpasses : checkStaticOperand stayClause = .ok () := eq_ok_of_toOption (by decide +kernel)
  have hfails : (checkStaticOperand seatsClause).isOk = false := by decide +kernel
  have hstay := checkStaticOperand_exact (c := stayClause) rfl (by decide)
  have hseats := checkStaticOperand_exact (c := seatsClause) rfl (by decide)
  refine ⟨hstay.1.mp hpasses, hstay.2.1 hpasses, not_not.mp fun hnone ↦ ?_⟩
  rw [hseats.1.mpr hnone] at hfails
  cases hfails

/-! ## Texts that evade the checks -/

/-- The text passes the checks although no comparison with it leads to a verdict. -/
inductive Evades (op : Operator) (value : String) : Prop
  /-- Numbers are compared, and the text is no number. -/
  | noNumber (numbers : op.comparesNumbers = true) (text : Number.parse? value = none)
  /-- The operator refuses the text, and the text has opening braces. -/
  | braces (opening : Template.hasOpening value = true) (refused : ¬op.Takes value)

theorem Evades.not_exists_verdict {op : Operator} (h : Evades op value) :
    ¬∃ left b, op.apply left value = .ok b := by
  rw [Operator.exists_verdict_iff]
  rintro ⟨htakes, hnumber⟩
  cases h with
  | noNumber hnumbers hnone =>
    obtain ⟨n, hn⟩ := hnumber hnumbers
    cases hnone.symm.trans hn
  | braces _ hrefused => exact hrefused htakes

/-- A text that passes leads to a verdict with some value unless it evades the checks. -/
theorem exists_verdict_iff_of_checkStaticOperand (hcheck : checkStaticOperand c = .ok ())
    (hvalue : c.value = some value) :
    (∃ left b, c.operator.apply left value = .ok b) ↔ ¬Evades c.operator value := by
  refine ⟨fun hverdict hevades ↦ hevades.not_exists_verdict hverdict, fun hsafe ↦ ?_⟩
  refine Operator.exists_verdict_iff.mpr ⟨?_, fun hnumbers ↦ ?_⟩
  · by_cases hopening : Template.hasOpening value = true
    · exact not_not.mp fun hrefused ↦ hsafe (.braces hopening hrefused)
    · rw [checkStaticOperand, hvalue] at hcheck
      simp only [hopening] at hcheck
      exact checkOperand_eq_ok_iff.mp hcheck
  · exact Option.ne_none_iff_exists'.mp fun hnone ↦ hsafe (.noNumber hnumbers hnone)

variable {g : Graph} {schemas : Schemas} {warnings : List Warning} {n : NamedNode}
  {condition : Condition}

private theorem checkStaticOperand_of_validate (h : g.validate schemas = .ok warnings)
    (hn : n ∈ g.nodes) (hcondition : n.spec.isCondition = true)
    (hread : Condition.ofFields n.id n.spec.config = .ok condition)
    (hclause : c ∈ condition.clauses) : checkStaticOperand c = .ok () := by
  obtain ⟨uses, hpasses⟩ := Graph.exists_passes_of_validate h
  obtain ⟨f, hcheck, _⟩ := hpasses.found n hn
  obtain ⟨condition', findings, hread', _, hfindings, _⟩ := exists_of_checkNode hcheck hcondition
  cases hread.symm.trans hread'
  obtain ⟨p, hp, hclause⟩ := (Condition.isWellFormed_of_ofFields hread).exists_guarded hclause
  obtain ⟨_, _, hpath⟩ := exists_of_mapM_eq_ok hfindings hp
  obtain ⟨⟨⟩, hclauses, _⟩ := bind_eq_ok_iff.mp hpath
  exact forM_eq_ok_iff.mp hclauses c hclause

/-- **Which literal clauses can be evaluated.** In a graph that passes its checks, a clause whose
operator needs a text has one. If the text has no references, it is compared with as it stands, and
there is a value with which the clause comes to a verdict exactly if the text does not evade the
checks. -/
theorem literalClause_exists_verdict_iff (h : g.validate schemas = .ok warnings) (hn : n ∈ g.nodes)
    (hcondition : n.spec.isCondition = true)
    (hread : Condition.ofFields n.id n.spec.config = .ok condition)
    (hclause : c ∈ condition.clauses) (hneeds : c.operator.requiresValue = true)
    (hliteral : ∀ value ∈ c.value, Template.references value = []) :
    ∃ value, c.value = some value ∧ (∀ vars, Template.interpolate vars value = .ok value) ∧
      ((∃ left b, c.operator.apply left value = .ok b) ↔ ¬Evades c.operator value) := by
  have hpresent := (Condition.isWellFormed_of_ofFields hread).lacksValue c hclause
  cases hvalue : c.value with
  | none =>
    rw [Clause.lacksValue, hneeds, hvalue] at hpresent
    cases hpresent
  | some value =>
    exact ⟨value, rfl, Template.interpolate_of_references_eq_nil (hliteral value hvalue),
      exists_verdict_iff_of_checkStaticOperand
        (checkStaticOperand_of_validate h hn hcondition hread hclause) hvalue⟩

/-! ### A gate with two slips

A number is written with a comma in it, and braces are opened in front of a date and never closed.
-/

def hastyClauses : List Clause :=
  [⟨"c1", "input.total", .greaterThan, some "1,000"⟩,
    ⟨"c2", "input.day", .dateBefore, some "\x7b\x7b2024-01-01"⟩]

def soundClause : Clause :=
  ⟨"c3", "input.day", .dateBefore, some " 2024-12-31 "⟩

/-- A condition on these clauses. -/
def hastyCondition : Condition where
  paths := [⟨"p1", "Early", soundClause :: hastyClauses, .or⟩, ⟨"else", "Else", [], .and⟩]
  variableName := none
  mode := none

def hastyNode : NamedNode where
  displayName := "condition_0"
  spec := { id := "gate", nodeType := "condition", config := hastyCondition.toFields }

def hastyGate : Workflow where
  id := Uuid.nil
  name := "gate"
  nodes := [hastyNode.spec]

def hastyGraph : Graph where
  nodes := [hastyNode]
  edges := []

private theorem read_hastyNode :
    Condition.ofFields hastyNode.id hastyNode.spec.config = .ok hastyCondition := rfl

private theorem validate_hastyGraph : hastyGraph.validate Schemas.standard = .ok [] :=
  eq_ok_of_toOption (by decide +kernel)

private theorem references_hastyClauses :
    ∀ c ∈ hastyClauses, ∀ value ∈ c.value, Template.references value = [] := by
  decide

private theorem evades_hastyClauses :
    ∀ c ∈ hastyClauses, ∀ value ∈ c.value, Evades c.operator value := by
  have hdate : Timestamp.parse? "\x7b\x7b2024-01-01" = none := by decide +kernel
  simp only [hastyClauses, List.forall_mem_cons, Option.mem_some_iff, forall_eq']
  refine ⟨.noNumber rfl (by decide +kernel), .braces (by decide) ?_, nofun⟩
  rintro ⟨t, ht⟩
  cases hdate.symm.trans ht

/-- The gate passes its checks, and there are no warnings about it. But whatever they are compared
with, the clauses with the slips come to no verdict. -/
theorem not_exists_verdict_hastyGate :
    Graph.build hastyGate = .ok hastyGraph ∧ hastyGraph.validate Schemas.standard = .ok [] ∧
      hastyNode ∈ hastyGraph.nodes ∧ hastyNode.spec.isCondition = true ∧
      Condition.ofFields hastyNode.id hastyNode.spec.config = .ok hastyCondition ∧
      ∀ c ∈ hastyClauses, c ∈ hastyCondition.clauses ∧ c.operator.requiresValue = true ∧
        ∃ value, c.value = some value ∧ Template.references value = [] ∧
          ∀ vars text, Template.interpolate vars value = .ok text →
            ¬∃ left b, c.operator.apply left text = .ok b := by
  refine ⟨rfl, validate_hastyGraph, List.mem_singleton_self _, rfl, read_hastyNode,
    fun c hc ↦ ?_⟩
  have hshape : ∀ c ∈ hastyClauses, c ∈ hastyCondition.clauses ∧
      c.operator.requiresValue = true ∧ c.value.isSome = true := by decide
  obtain ⟨hmem, hneeds, hsome⟩ := hshape c hc
  obtain ⟨value, hvalue⟩ := Option.isSome_iff_exists.mp hsome
  have hliteral := references_hastyClauses c hc value hvalue
  refine ⟨hmem, hneeds, value, hvalue, hliteral, fun vars text htext ↦ ?_⟩
  rw [Template.interpolate_of_references_eq_nil hliteral] at htext
  cases htext
  exact (evades_hastyClauses c hc value hvalue).not_exists_verdict

/-- The clauses with the slips come to no verdict because they evade the checks, and the sound one
comes to one because it does not. -/
theorem literalClause_exists_verdict_iff_hastyGate :
    (∀ c ∈ hastyClauses, ∃ value, c.value = some value ∧ Evades c.operator value ∧
        ¬∃ left b, c.operator.apply left value = .ok b) ∧
      ∃ left b, soundClause.operator.apply left " 2024-12-31 " = .ok b := by
  have hliteral : ∀ c ∈ hastyCondition.clauses, ∀ value ∈ c.value,
      Template.references value = [] := by decide
  have hshape : ∀ c ∈ hastyClauses, c ∈ hastyCondition.clauses ∧
      c.operator.requiresValue = true := by decide
  have hiff {c : Clause} (hc : c ∈ hastyCondition.clauses)
      (hneeds : c.operator.requiresValue = true) :=
    literalClause_exists_verdict_iff validate_hastyGraph (List.mem_singleton_self _) rfl
      read_hastyNode hc hneeds (hliteral c hc)
  constructor
  · intro c hc
    obtain ⟨hmem, hneeds⟩ := hshape c hc
    obtain ⟨value, hvalue, _, hverdict⟩ := hiff hmem hneeds
    have hevades := evades_hastyClauses c hc value hvalue
    exact ⟨value, hvalue, hevades, fun h ↦ hverdict.mp h hevades⟩
  · obtain ⟨value, hvalue, _, hverdict⟩ := hiff (c := soundClause) (by decide) rfl
    cases hvalue
    refine hverdict.mpr ?_
    rintro (⟨hnumbers, -⟩ | ⟨hopening, -⟩)
    · cases hnumbers
    · exact absurd hopening (by decide)

end Validation

end FlowRouting
