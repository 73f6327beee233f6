import FlowRouting.Condition.Comparison
import FlowRouting.Proofs.Fallible
import FlowRouting.Proofs.Number.Numerals

/-!
# Operators of one family agree

The operators of a family read the same from a value and a text, and if they cannot, each fails as
the others do, apart from its own name in the error. What tells them apart is what they make of what
was read: which orderings they accept, or whether they negate.

So it is enough to know of each reader that it is *uniform* in the operator, which carries over from
the reading of each side to that of both, and to know that there is an ordering at all. Lengths and
numbers that were read compare with each other. Not-a-number, which only a value can be, compares
with nothing.
-/

namespace FlowRouting

/-- The same error, found by an operator. -/
def EvalError.reportedBy (op : Operator) : EvalError → EvalError
  | .typeMismatch _ expected found => .typeMismatch op expected found
  | .invalidOperand _ operand fault => .invalidOperand op.name operand fault
  | e => e

private theorem Number.exists_compare?_finite {x : Number} (hx : x ≠ .nan) (y : Finite) :
    ∃ o, x.compare? (.finite y) = some o := by
  cases x with
  | nan => exact absurd rfl hx
  | negInfinity => exact ⟨.lt, rfl⟩
  | finite x => exact ⟨compare x.units y.units, rfl⟩
  | posInfinity => exact ⟨.gt, rfl⟩

private theorem Number.ofInt_ne_nan (n : Int) : ofInt n ≠ .nan := by
  intro h
  rw [ofInt, ofQuotient] at h
  split at h
  · cases h
  · split at h <;> cases h

namespace Operator

variable {α β : Type} {left : Value} {right : String}

/-! ## Uniform readers -/

/-- Whatever the operator is, the same is read, or the same error is found. -/
private inductive Uniform (read : Operator → Except EvalError α) : Prop
  | success (a : α) (h : ∀ op, read op = .ok a)
  | failure (e : EvalError) (h : ∀ op, read op = .error (e.reportedBy op))

namespace Uniform

private theorem ok (a : α) : Uniform fun _ ↦ .ok a :=
  .success a fun _ ↦ rfl

private theorem mismatch (expected : OperandType) (found : FoundOperand) :
    Uniform fun op ↦ (.error (.typeMismatch op expected found) : Except EvalError α) :=
  .failure (.typeMismatch .equals expected found) fun _ ↦ rfl

private theorem refuse (operand : String) (fault : OperandFault) :
    Uniform fun op ↦ (.error (op.refuse operand fault) : Except EvalError α) :=
  .failure (.invalidOperand "" operand fault) fun _ ↦ rfl

private theorem bind {read : Operator → Except EvalError α} {f : Operator → α → Except EvalError β}
    (hread : Uniform read) (hf : ∀ a, Uniform fun op ↦ f op a) :
    Uniform fun op ↦ read op >>= f op := by
  cases hread with
  | failure e h => exact .failure e fun op ↦ bind_eq_error_iff.mpr (.inl (h op))
  | success a h =>
    cases hf a with
    | failure e h' => exact .failure e fun op ↦ bind_eq_error_iff.mpr (.inr ⟨a, h op, h' op⟩)
    | success b h' => exact .success b fun op ↦ bind_eq_ok_iff.mpr ⟨a, h op, h' op⟩

end Uniform

private theorem uniform_scalar (left : Value) : Uniform fun op ↦ op.scalar left := by
  simp only [scalar]
  cases left.toScalarText? with
  | some s => exact .ok s
  | none => exact .mismatch .string (.ofKind left.kind)

private theorem uniform_leftDate (left : Value) : Uniform fun op ↦ op.leftDate left := by
  cases left with
  | text s =>
    simp only [leftDate]
    cases Timestamp.parse? s with
    | some t => exact .ok t
    | none => exact .mismatch .date (.ofText s)
  | _ => exact .mismatch .date _

private theorem uniform_rightDate (right : String) : Uniform fun op ↦ op.rightDate right := by
  simp only [rightDate]
  cases Timestamp.parse? right with
  | some t => exact .ok t
  | none => exact .refuse right .unrecognisedDate

private theorem uniform_leftLength (left : Value) : Uniform fun op ↦ op.leftLength left := by
  cases left with
  | text s => exact .ok s.length
  | array items => exact .ok items.length
  | _ => exact .mismatch .stringOrArray _

private theorem uniform_holds (left : Value) (right : String) :
    Uniform fun op ↦ op.holds left right := by
  cases left with
  | null | object => exact .mismatch .stringOrArray _
  | _ => exact .ok _

private theorem uniform_listed (left : Value) (right : String) :
    Uniform fun op ↦ op.listed left right :=
  (uniform_scalar left).bind fun _ ↦ .ok _

/-! ## Orderings -/

/-- How a value compares with a text as numbers. -/
private def numberOrder (op : Operator) (left : Value) (right : String) :
    Except EvalError (Option Ordering) :=
  match left.toNumber?, Number.parse? right with
  | none, _ => .error (op.mistyped .number left)
  | some _, none => .error (.typeMismatch op .number (.ofText right))
  | some a, some b => .ok (a.compare? b)

private def lengthOrder (op : Operator) (left : Value) (right : String) :
    Except EvalError (Option Ordering) := do
  let length ← op.leftLength left
  match (Number.parse? right).filter Number.isNonNegative with
  | none => throw (op.refuse right .notNonNegative)
  | some n => return (Number.ofInt length).compare? n

private def dateOrder (op : Operator) (left : Value) (right : String) :
    Except EvalError Ordering := do
  let a ← op.leftDate left
  let b ← op.rightDate right
  return a.compare b

variable (op : Operator) (accept : Ordering → Bool)

private theorem compareNumbers_eq :
    op.compareNumbers left right accept = (op.numberOrder left right).map (·.any accept) := by
  rw [compareNumbers, numberOrder]
  split <;> simp [*, Except.map]

private theorem compareLength_eq :
    op.compareLength left right accept = (op.lengthOrder left right).map (·.any accept) := by
  rw [compareLength, lengthOrder]
  cases op.leftLength left with
  | error e => rfl
  | ok length =>
    cases (Number.parse? right).filter Number.isNonNegative with
    | none => rfl
    | some n => rfl

private theorem compareDate_eq :
    op.compareDate left right accept = (op.dateOrder left right).map accept := by
  rw [compareDate, dateOrder]
  cases op.leftDate left with
  | error e => rfl
  | ok a =>
    cases op.rightDate right with
    | error e => rfl
    | ok b => rfl

variable (left right)

private theorem uniform_numberOrder : Uniform fun op ↦ op.numberOrder left right := by
  simp only [numberOrder]
  cases left.toNumber? with
  | none => exact .mismatch .number (.ofKind left.kind)
  | some a =>
    cases Number.parse? right with
    | none => exact .mismatch .number (.ofText right)
    | some b => exact .ok _

private theorem uniform_lengthOrder : Uniform fun op ↦ op.lengthOrder left right := by
  refine (uniform_leftLength left).bind fun length ↦ ?_
  cases (Number.parse? right).filter Number.isNonNegative with
  | none => exact .refuse right .notNonNegative
  | some n => exact .ok _

private theorem uniform_dateOrder : Uniform fun op ↦ op.dateOrder left right :=
  (uniform_leftDate left).bind fun _ ↦ (uniform_rightDate right).bind fun _ ↦ .ok _

variable {op left right}

/-- Unless the value is not-a-number there is an ordering, and loose equality goes by it. -/
private theorem exists_of_numberOrder {order : Option Ordering}
    (h : op.numberOrder left right = .ok order) (hnan : left.toNumber? ≠ some .nan) :
    ∃ o, order = some o ∧ left.looselyEquals right = (o == .eq) := by
  rw [numberOrder] at h
  split at h
  · cases h
  · cases h
  · next a b ha hb =>
    obtain ⟨y, rfl⟩ := Number.exists_finite_of_parse? hb
    obtain ⟨o, ho⟩ := Number.exists_compare?_finite (fun h ↦ hnan (h ▸ ha)) y
    refine ⟨o, (Except.ok.inj h).symm.trans ho, ?_⟩
    rw [Value.looselyEquals, ha, hb]
    dsimp only
    rw [Number.equals, ho]
    rfl

private theorem exists_of_lengthOrder {order : Option Ordering}
    (h : op.lengthOrder left right = .ok order) : ∃ o, order = some o := by
  obtain ⟨length, -, h⟩ := bind_eq_ok_iff.mp h
  split at h
  · cases h
  · next n hn =>
    obtain ⟨y, rfl⟩ := Number.exists_finite_of_parse? (Option.filter_eq_some_iff.mp hn).1
    obtain ⟨o, ho⟩ := Number.exists_compare?_finite (Number.ofInt_ne_nan length) y
    exact ⟨o, (Except.ok.inj h).symm.trans ho⟩

/-! ## Families -/

/-- The orderings that an operator accepts, if it compares two sides of an order. -/
private def accepts : Operator → Ordering → Bool
  | .lessThan | .lengthLessThan | .dateBefore => (· == .lt)
  | .lessOrEqual => (· != .gt)
  | .lengthEquals | .dateEquals => (· == .eq)
  | .greaterThan | .lengthGreaterThan | .dateAfter => (· == .gt)
  | .greaterOrEqual => (· != .lt)
  | _ => fun _ ↦ false

/-- Some operators all come to verdicts, and these have a property, or they all fail with one
error, apart from their names in it. -/
inductive Coheres (ops : List Operator) (left : Value) (right : String)
    (p : (Operator → Bool) → Prop) : Prop
  | verdicts (verdict : Operator → Bool) (hok : ∀ op ∈ ops, op.apply left right = .ok (verdict op))
      (h : p verdict)
  | failures (e : EvalError) (herror : ∀ op ∈ ops, op.apply left right = .error (e.reportedBy op))

private theorem Uniform.coheres {ops : List Operator} {p : (Operator → Bool) → Prop}
    {read : Operator → Except EvalError α} (judge : Operator → α → Bool) (hread : Uniform read)
    (happly : ∀ op ∈ ops, op.apply left right = (read op).map (judge op))
    (h : ∀ a, (∀ op, read op = .ok a) → p fun op ↦ judge op a) : Coheres ops left right p := by
  cases hread with
  | success a hok => exact .verdicts _ (fun op hop ↦ by rw [happly op hop, hok op]; rfl) (h a hok)
  | failure e herror =>
    exact .failures e fun op hop ↦ by rw [happly op hop, herror op]; rfl

/-- An operator and its negation cohere, and their verdicts are opposite. -/
private theorem Uniform.coheres_pair {positive negative : Operator}
    {read : Operator → Except EvalError Bool} (hread : Uniform read) (hne : positive ≠ negative)
    (hpositive : positive.apply left right = read positive)
    (hnegative : negative.apply left right = (read negative).map (!·)) :
    Coheres [positive, negative] left right fun verdict ↦
      verdict negative = !verdict positive := by
  cases hread with
  | success b hok =>
    refine .verdicts (fun op ↦ if op = negative then !b else b) ?_ ?_
    · simp [hpositive, hnegative, hok, hne, Except.map]
    · simp [hne]
  | failure e herror =>
    exact .failures e (by simp [hpositive, hnegative, herror, Except.map])

private theorem coheres_numbers (left : Value) (right : String) :
    Coheres [.lessThan, .lessOrEqual, .greaterThan, .greaterOrEqual] left right fun verdict ↦
      left.toNumber? ≠ some .nan → ∃ equal, equals.apply left right = .ok equal ∧
        [verdict .lessThan, equal, verdict .greaterThan].count true = 1 ∧
        verdict .lessOrEqual = (!verdict .greaterThan) ∧
        verdict .greaterOrEqual = !verdict .lessThan := by
  refine (uniform_numberOrder left right).coheres (fun op order ↦ order.any op.accepts) ?_
    fun order hok hnan ↦ ?_
  · simp only [List.forall_mem_cons, ← compareNumbers_eq]
    exact ⟨rfl, rfl, rfl, rfl, List.forall_mem_nil _⟩
  · obtain ⟨o, rfl, hequal⟩ := exists_of_numberOrder (hok .equals) hnan
    refine ⟨o == .eq, congrArg Except.ok hequal, ?_⟩
    cases o <;> decide

private theorem coheres_lengths (left : Value) (right : String) :
    Coheres [.lengthLessThan, .lengthEquals, .lengthGreaterThan] left right fun verdict ↦
      [verdict .lengthLessThan, verdict .lengthEquals,
        verdict .lengthGreaterThan].count true = 1 := by
  refine (uniform_lengthOrder left right).coheres (fun op order ↦ order.any op.accepts) ?_
    fun order hok ↦ ?_
  · simp only [List.forall_mem_cons, ← compareLength_eq]
    exact ⟨rfl, rfl, rfl, List.forall_mem_nil _⟩
  · obtain ⟨o, rfl⟩ := exists_of_lengthOrder (hok .lengthEquals)
    cases o <;> decide

private theorem coheres_dates (left : Value) (right : String) :
    Coheres [.dateBefore, .dateEquals, .dateAfter] left right fun verdict ↦
      [verdict .dateBefore, verdict .dateEquals, verdict .dateAfter].count true = 1 := by
  refine (uniform_dateOrder left right).coheres accepts ?_ fun o _ ↦ ?_
  · simp only [List.forall_mem_cons, ← compareDate_eq]
    exact ⟨rfl, rfl, rfl, List.forall_mem_nil _⟩
  · cases o <;> decide

def negations : List (Operator × Operator) :=
  [(.equals, .notEquals), (.contains, .notContains), (.inList, .notInList),
    (.isEmpty, .isNotEmpty)]

private theorem coheres_negations (left : Value) (right : String) :
    ∀ p ∈ negations, Coheres [p.1, p.2] left right fun verdict ↦ verdict p.2 = !verdict p.1 := by
  simp only [negations, List.forall_mem_cons]
  refine ⟨?_, ?_, ?_, ?_, List.forall_mem_nil _⟩
  · exact (Uniform.ok (left.looselyEquals right)).coheres_pair nofun rfl rfl
  · exact (uniform_holds left right).coheres_pair nofun rfl rfl
  · exact (uniform_listed left right).coheres_pair nofun rfl rfl
  · exact (Uniform.ok left.isEmpty).coheres_pair nofun rfl rfl

/-- **The operators of a family come to verdicts together, and these cohere.** Of less, equal and
greater exactly one is so; what is not greater is less or equal, and what is not less is greater or
equal; and an operator and its negation are opposite. Numbers are the exception, since a value may
be not-a-number. Where the operators of a family come to no verdict, they fail alike. -/
theorem apply_coherent (left : Value) (right : String) :
    (Coheres [.lessThan, .lessOrEqual, .greaterThan, .greaterOrEqual] left right fun verdict ↦
      left.toNumber? ≠ some .nan → ∃ equal, equals.apply left right = .ok equal ∧
        [verdict .lessThan, equal, verdict .greaterThan].count true = 1 ∧
        verdict .lessOrEqual = (!verdict .greaterThan) ∧
        verdict .greaterOrEqual = !verdict .lessThan) ∧
    (Coheres [.lengthLessThan, .lengthEquals, .lengthGreaterThan] left right fun verdict ↦
      [verdict .lengthLessThan, verdict .lengthEquals,
        verdict .lengthGreaterThan].count true = 1) ∧
    (Coheres [.dateBefore, .dateEquals, .dateAfter] left right fun verdict ↦
      [verdict .dateBefore, verdict .dateEquals, verdict .dateAfter].count true = 1) ∧
    ∀ p ∈ negations, Coheres [p.1, p.2] left right fun verdict ↦ verdict p.2 = !verdict p.1 :=
  ⟨coheres_numbers left right, coheres_lengths left right, coheres_dates left right,
    coheres_negations left right⟩

/-- A half is written in two ways. -/
theorem apply_coherent_halves :
    ∃ less equal greater, lessThan.apply (.text "2.5") " 2.50" = .ok less ∧
      equals.apply (.text "2.5") " 2.50" = .ok equal ∧
      greaterThan.apply (.text "2.5") " 2.50" = .ok greater ∧
      [less, equal, greater].count true = 1 := by
  rcases (apply_coherent (.text "2.5") " 2.50").1 with ⟨verdict, hok, h⟩ | ⟨e, herror⟩
  · obtain ⟨equal, hequal, hone, -⟩ := h (by decide +kernel)
    exact ⟨_, equal, _, hok .lessThan (by decide), hequal, hok .greaterThan (by decide), hone⟩
  · have hfails := herror .lessThan (by decide)
    have hok : (lessThan.apply (.text "2.5") " 2.50").isOk = true := by decide +kernel
    rw [hfails] at hok
    cases hok

end Operator

end FlowRouting
