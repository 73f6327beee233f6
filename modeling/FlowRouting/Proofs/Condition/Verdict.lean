import FlowRouting.Condition.Comparison
import FlowRouting.Proofs.Fallible

/-!
# What a comparison comes to

An operator that compares a value with a text finds fault with their types, or it refuses the text,
or it comes to a verdict. Whether it refuses the text does not depend on the value: `Operator.Takes`
says of a text alone that the operator does not. Whether it finds fault with a type depends on the
value only, except in comparisons of numbers, where a text that is no number is of the wrong type.

The value and the text can both be at fault, and then it depends on the operator which one is found
first. But for each operator there is a value that is of no wrong type, its *probe*. A text that is
refused at all is refused when compared with the probe, and one that leads to a verdict at all leads
to one.
-/

namespace FlowRouting

namespace Operator

/-! ## Sides that are in order -/

/-- The operator does not refuse to compare with a text. -/
def Takes (op : Operator) (right : String) : Prop :=
  match op with
  | .matchesRegex => ∃ r, Regex.parse right = .ok r
  | .lengthEquals | .lengthGreaterThan | .lengthLessThan =>
    ∃ n, Number.parse? right = some n ∧ n.isNonNegative = true
  | .dateBefore | .dateAfter | .dateEquals => ∃ t, Timestamp.parse? right = some t
  | .dateBetween =>
    ∃ start finish s t, listItems right = [start, finish] ∧ Timestamp.parse? start = some s ∧
      Timestamp.parse? finish = some t ∧ s.compare t ≠ .gt
  | .typeEquals => ∃ kind, Value.Kind.parse? right = some kind
  | _ => True

theorem takes_dateBetween_iff {right start finish : String}
    (hitems : listItems right = [start, finish]) :
    Takes .dateBetween right ↔ ∃ s t, Timestamp.parse? start = some s ∧
      Timestamp.parse? finish = some t ∧ s.compare t ≠ .gt := by
  constructor
  · rintro ⟨start', finish', s, t, hitems', hrange⟩
    cases hitems.symm.trans hitems'
    exact ⟨s, t, hrange⟩
  · rintro ⟨s, t, hrange⟩
    exact ⟨start, finish, s, t, hitems, hrange⟩

/-- The operator compares a value and a text of these types. -/
def Fits (op : Operator) (left : Value) (right : String) : Prop :=
  match op with
  | .greaterThan | .greaterOrEqual | .lessThan | .lessOrEqual =>
    ∃ a b, left.toNumber? = some a ∧ Number.parse? right = some b
  | .contains | .notContains => left.kind ≠ .null ∧ left.kind ≠ .object
  | .startsWith | .endsWith | .matchesRegex | .inList | .notInList => ∃ s, op.scalar left = .ok s
  | .lengthEquals | .lengthGreaterThan | .lengthLessThan => ∃ n, op.leftLength left = .ok n
  | .dateBefore | .dateAfter | .dateEquals | .dateBetween => ∃ t, op.leftDate left = .ok t
  | .equals | .notEquals | .isEmpty | .isNotEmpty | .typeEquals => True

/-! ## Verdicts -/

/-- What a comparison comes to: a verdict if both sides are in order, a refusal if the text is not
taken, a fault of a type if the types do not fit. -/
inductive Judges (takes fits : Prop) : Except EvalError Bool → Prop
  | verdict (htakes : takes) (hfits : fits) (b : Bool) : Judges takes fits (.ok b)
  | refusal (h : ¬takes) (name operand : String) {fault : OperandFault}
      (hfault : fault ≠ .missingValue) :
      Judges takes fits (.error (.invalidOperand name operand fault))
  | mismatch (h : ¬fits) (op : Operator) (expected : OperandType) (found : FoundOperand) :
      Judges takes fits (.error (.typeMismatch op expected found))

def IsMismatch (e : EvalError) : Prop :=
  ∃ op expected found, e = .typeMismatch op expected found

def IsRefusal (e : EvalError) : Prop :=
  ∃ name operand fault, fault ≠ .missingValue ∧ e = .invalidOperand name operand fault

namespace Judges

variable {takes fits : Prop} {α : Type} {x : Except EvalError Bool}

theorem map (h : Judges takes fits x) (f : Bool → Bool) : Judges takes fits (x.map f) := by
  cases h with
  | verdict htakes hfits b => exact .verdict htakes hfits _
  | refusal h name operand hfault => exact .refusal h name operand hfault
  | mismatch h op expected found => exact .mismatch h op expected found

/-- If reading the value can only find fault with its type, the types fit if it does not. -/
theorem bind {side : Except EvalError α} {f : α → Except EvalError Bool}
    (hside : FailsBy IsMismatch side) (hf : ∀ a, Judges takes True (f a)) :
    Judges takes (∃ a, side = .ok a) (side >>= f) := by
  cases side with
  | error e =>
    obtain ⟨op, expected, found, rfl⟩ := hside e rfl
    exact .mismatch nofun op expected found
  | ok a =>
    show Judges takes _ (f a)
    have h := hf a
    generalize f a = y at h ⊢
    cases h with
    | verdict htakes _ b => exact .verdict htakes ⟨a, rfl⟩ b
    | refusal h name operand hfault => exact .refusal h name operand hfault
    | mismatch h => exact absurd trivial h

theorem exists_ok_iff (h : Judges takes fits x) (hfits : fits) : (∃ b, x = .ok b) ↔ takes := by
  cases h with
  | verdict htakes _ b => exact ⟨fun _ ↦ htakes, fun _ ↦ ⟨b, rfl⟩⟩
  | refusal h => exact ⟨nofun, fun htakes ↦ absurd htakes h⟩
  | mismatch h => exact absurd hfits h

theorem of_ok {b : Bool} (h : Judges takes fits (.ok b)) : takes ∧ fits := by
  cases h with
  | verdict htakes hfits => exact ⟨htakes, hfits⟩

theorem of_refusal {name operand : String} {fault : OperandFault}
    (h : Judges takes fits (.error (.invalidOperand name operand fault))) : ¬takes := by
  cases h with
  | refusal h => exact h

theorem exists_refusal (h : Judges takes fits x) (hfits : fits) (htakes : ¬takes) :
    ∃ name operand fault, x = .error (.invalidOperand name operand fault) := by
  cases h with
  | verdict h => exact absurd h htakes
  | refusal _ name operand => exact ⟨name, operand, _, rfl⟩
  | mismatch h => exact absurd hfits h

end Judges

/-! ## Families -/

variable (op : Operator) (left : Value) (right : String)

private theorem failsBy_scalar : FailsBy IsMismatch (op.scalar left) := by
  rw [scalar]
  split
  · exact .ok _
  · exact .error ⟨_, _, _, rfl⟩

theorem failsBy_leftDate : FailsBy IsMismatch (op.leftDate left) := by
  rw [leftDate.eq_def]
  split
  · split
    · exact .ok _
    · exact .error ⟨_, _, _, rfl⟩
  · exact .error ⟨_, _, _, rfl⟩

private theorem failsBy_leftLength : FailsBy IsMismatch (op.leftLength left) := by
  rw [leftLength.eq_def]
  split
  · exact .ok _
  · exact .ok _
  · exact .error ⟨_, _, _, rfl⟩

private theorem judges_compareNumbers (accept : Ordering → Bool) :
    Judges True (∃ a b, left.toNumber? = some a ∧ Number.parse? right = some b)
      (op.compareNumbers left right accept) := by
  rw [compareNumbers]
  split
  · next hleft =>
    refine .mismatch ?_ _ _ _
    rintro ⟨a, b, ha, -⟩
    cases hleft.symm.trans ha
  · next hright =>
    refine .mismatch ?_ _ _ _
    rintro ⟨a, b, -, hb⟩
    cases hright.symm.trans hb
  · next hleft hright => exact .verdict trivial ⟨_, _, hleft, hright⟩ _

private theorem judges_compareLength (accept : Ordering → Bool) :
    Judges (∃ n, Number.parse? right = some n ∧ n.isNonNegative = true)
      (∃ n, op.leftLength left = .ok n) (op.compareLength left right accept) := by
  refine .bind (op.failsBy_leftLength left) fun length ↦ ?_
  split
  · next hnone =>
    refine .refusal ?_ _ _ nofun
    rintro ⟨n, hn, hsign⟩
    rw [hn, Option.filter_some_pos hsign] at hnone
    cases hnone
  · next n hsome => exact .verdict ⟨n, Option.filter_eq_some_iff.mp hsome⟩ trivial _

private theorem judges_compareDate (accept : Ordering → Bool) :
    Judges (∃ t, Timestamp.parse? right = some t) (∃ t, op.leftDate left = .ok t)
      (op.compareDate left right accept) := by
  refine .bind (op.failsBy_leftDate left) fun a ↦ ?_
  rw [rightDate]
  cases hright : Timestamp.parse? right with
  | none =>
    refine .refusal ?_ _ _ nofun
    rintro ⟨t, ht⟩
    cases ht
  | some t => exact .verdict ⟨t, rfl⟩ trivial _

/-- The ends of a range of dates. They are read before the value is. -/
def range : Except EvalError (Timestamp × Timestamp) :=
  match listItems right with
  | [start, finish] => do
    let start ← op.rightDate start
    let finish ← op.rightDate finish
    if start.compare finish = .gt then throw (op.refuse right .reversedDates)
    return (start, finish)
  | _ => .error (op.refuse right .notTwoDates)

theorem dateWithin_eq : op.dateWithin left right = (do
    let p ← op.range right
    let date ← op.leftDate left
    return date.compare p.1 != .lt && date.compare p.2 != .gt) := by
  rw [dateWithin, range]
  rcases listItems right with _ | ⟨start, _ | ⟨finish, _ | ⟨extra, rest⟩⟩⟩
  · rfl
  · rfl
  · dsimp only
    cases op.rightDate start with
    | error e => rfl
    | ok s =>
      cases op.rightDate finish with
      | error e => rfl
      | ok t =>
        show (if s.compare t = .gt then _ else _) = (if s.compare t = .gt then _ else _) >>= _
        split <;> rfl
  · rfl

theorem rightDate_eq_ok_iff {op : Operator} {s : String} {t : Timestamp} :
    op.rightDate s = .ok t ↔ Timestamp.parse? s = some t := by
  rw [rightDate]
  split <;> simp [*]

theorem range_eq_ok_iff {op : Operator} {right : String} {p : Timestamp × Timestamp} :
    op.range right = .ok p ↔ ∃ start finish, listItems right = [start, finish] ∧
      Timestamp.parse? start = some p.1 ∧ Timestamp.parse? finish = some p.2 ∧
        p.1.compare p.2 ≠ .gt := by
  rw [range]
  split
  · next start finish hitems =>
    constructor
    · intro h
      obtain ⟨s, hs, h⟩ := bind_eq_ok_iff.mp h
      obtain ⟨t, ht, h⟩ := bind_eq_ok_iff.mp h
      by_cases hreversed : s.compare t = .gt
      · rw [if_pos hreversed] at h
        cases h
      · rw [if_neg hreversed] at h
        cases h
        exact ⟨start, finish, hitems, rightDate_eq_ok_iff.mp hs, rightDate_eq_ok_iff.mp ht,
          hreversed⟩
    · rintro ⟨start', finish', hitems', hs, ht, hordered⟩
      cases hitems.symm.trans hitems'
      refine bind_eq_ok_iff.mpr ⟨p.1, rightDate_eq_ok_iff.mpr hs, ?_⟩
      refine bind_eq_ok_iff.mpr ⟨p.2, rightDate_eq_ok_iff.mpr ht, ?_⟩
      rw [if_neg hordered]
      rfl
  · next hitems =>
    refine iff_of_false nofun ?_
    rintro ⟨start, finish, hitems', -⟩
    exact hitems start finish hitems'

theorem exists_range_iff : (∃ p, op.range right = .ok p) ↔ Takes .dateBetween right := by
  simp only [range_eq_ok_iff, Prod.exists]
  constructor
  · rintro ⟨s, t, start, finish, h⟩
    exact ⟨start, finish, s, t, h⟩
  · rintro ⟨start, finish, s, t, h⟩
    exact ⟨s, t, start, finish, h⟩

private theorem isRefusal_refuse {fault : OperandFault} (hfault : fault ≠ .missingValue) :
    IsRefusal (op.refuse right fault) :=
  ⟨_, _, _, hfault, rfl⟩

private theorem failsBy_rightDate : FailsBy IsRefusal (op.rightDate right) := by
  rw [rightDate]
  split
  · exact .ok _
  · exact .error (op.isRefusal_refuse right nofun)

theorem failsBy_range : FailsBy IsRefusal (op.range right) := by
  rw [range]
  split
  · refine .bind (op.failsBy_rightDate _) fun s ↦ .bind (op.failsBy_rightDate _) fun t ↦ ?_
    split
    · exact .error (op.isRefusal_refuse right nofun)
    · exact .ok _
  · exact .error (op.isRefusal_refuse right nofun)

theorem judges_dateWithin :
    Judges (Takes .dateBetween right) (∃ t, op.leftDate left = .ok t)
      (op.dateWithin left right) := by
  rw [dateWithin_eq]
  cases hrange : op.range right with
  | error e =>
    obtain ⟨name, operand, fault, hfault, rfl⟩ := op.failsBy_range right e hrange
    refine .refusal (fun htakes ↦ ?_) name operand hfault
    obtain ⟨p, hp⟩ := (op.exists_range_iff right).mpr htakes
    cases hrange.symm.trans hp
  | ok p =>
    have htakes := (op.exists_range_iff right).mp ⟨p, hrange⟩
    exact .bind (op.failsBy_leftDate left) fun _ ↦ .verdict htakes trivial _

private theorem judges_holds :
    Judges True (left.kind ≠ .null ∧ left.kind ≠ .object) (op.holds left right) := by
  cases left with
  | null => exact .mismatch (fun h ↦ h.1 rfl) _ _ _
  | object fields => exact .mismatch (fun h ↦ h.2 rfl) _ _ _
  | array items => exact .verdict trivial ⟨nofun, nofun⟩ _
  | text s => exact .verdict trivial ⟨nofun, nofun⟩ _
  | number n => exact .verdict trivial ⟨nofun, nofun⟩ _
  | bool b => exact .verdict trivial ⟨nofun, nofun⟩ _

private theorem judges_scalar (f : String → Bool) :
    Judges True (∃ s, op.scalar left = .ok s) ((op.scalar left).map f) :=
  .bind (op.failsBy_scalar left) fun _ ↦ .verdict trivial trivial _

private theorem judges_matchesPattern :
    Judges (∃ r, Regex.parse right = .ok r) (∃ s, op.scalar left = .ok s)
      (op.matchesPattern left right) := by
  refine .bind (op.failsBy_scalar left) fun s ↦ ?_
  cases hright : Regex.parse right with
  | ok r => exact .verdict ⟨r, rfl⟩ trivial _
  | error fault => exact .refusal nofun _ _ nofun

private theorem judges_hasKind :
    Judges (∃ kind, Value.Kind.parse? right = some kind) True (op.hasKind left right) := by
  rw [hasKind]
  cases hright : Value.Kind.parse? right with
  | some kind => exact .verdict ⟨kind, rfl⟩ trivial _
  | none => exact .refusal nofun _ _ nofun

/-- An operator comes to a verdict if it takes the text and the types fit. Otherwise it refuses a
text that it does not take or finds fault with types that do not fit. -/
theorem judges_apply : Judges (op.Takes right) (op.Fits left right) (op.apply left right) := by
  cases op with
  | equals | notEquals | isEmpty | isNotEmpty => exact .verdict trivial trivial _
  | greaterThan | greaterOrEqual | lessThan | lessOrEqual =>
    exact judges_compareNumbers _ left right _
  | contains => exact judges_holds _ left right
  | notContains => exact (judges_holds _ left right).map _
  | startsWith => exact judges_scalar .startsWith left _
  | endsWith => exact judges_scalar .endsWith left _
  | matchesRegex => exact judges_matchesPattern _ left right
  | inList => exact judges_scalar .inList left _
  | notInList => exact (judges_scalar .notInList left _).map _
  | lengthEquals | lengthGreaterThan | lengthLessThan =>
    exact judges_compareLength _ left right _
  | dateBefore => exact judges_compareDate .dateBefore left right (· == .lt)
  | dateAfter => exact judges_compareDate .dateAfter left right (· == .gt)
  | dateEquals => exact judges_compareDate .dateEquals left right (· == .eq)
  | dateBetween => exact judges_dateWithin _ left right
  | typeEquals => exact judges_hasKind _ left right

/-! ## Probes -/

/-- The operator compares two numbers. -/
def comparesNumbers : Operator → Bool
  | .greaterThan | .greaterOrEqual | .lessThan | .lessOrEqual => true
  | _ => false

/-- A value that the operator has no fault to find with. -/
private def probe : Operator → Value
  | .dateBefore | .dateAfter | .dateEquals | .dateBetween => .text "1970-01-01"
  | _ => .text "0"

variable {op left right}

theorem Fits.exists_number (h : op.Fits left right) (hop : op.comparesNumbers = true) :
    ∃ n, Number.parse? right = some n := by
  cases op with
  | greaterThan | greaterOrEqual | lessThan | lessOrEqual =>
    obtain ⟨_, n, _, hn⟩ := h
    exact ⟨n, hn⟩
  | _ => cases hop

/-- The probe fits every text, except that a comparison of numbers needs a number. -/
private theorem fits_probe (h : op.comparesNumbers = true → ∃ n, Number.parse? right = some n) :
    op.Fits op.probe right := by
  have hnumber : ∃ n, Number.parse? "0" = some n := by
    rw [← Option.isSome_iff_exists]
    decide +kernel
  have hdate : ∀ op : Operator, ∃ t, op.leftDate (.text "1970-01-01") = .ok t := fun op ↦ by
    have hparse : (Timestamp.parse? "1970-01-01").isSome = true := by decide +kernel
    obtain ⟨t, ht⟩ := Option.isSome_iff_exists.mp hparse
    exact ⟨t, by rw [leftDate, ht]⟩
  cases op with
  | greaterThan | greaterOrEqual | lessThan | lessOrEqual =>
    obtain ⟨a, ha⟩ := hnumber
    obtain ⟨b, hb⟩ := h rfl
    exact ⟨a, b, ha, hb⟩
  | contains | notContains => exact ⟨nofun, nofun⟩
  | startsWith | endsWith | matchesRegex | inList | notInList => exact ⟨_, rfl⟩
  | lengthEquals | lengthGreaterThan | lengthLessThan => exact ⟨_, rfl⟩
  | dateBefore | dateAfter | dateEquals | dateBetween => exact hdate _
  | equals | notEquals | isEmpty | isNotEmpty | typeEquals => trivial

/-- An operator refuses a text, whatever it is compared with, exactly if it does not take it. -/
theorem exists_refusal_iff :
    (∃ left name operand fault, op.apply left right = .error (.invalidOperand name operand fault)) ↔
      ¬op.Takes right := by
  constructor
  · rintro ⟨left, name, operand, fault, h⟩
    exact (h ▸ op.judges_apply left right).of_refusal
  · intro h
    by_cases hop : op.comparesNumbers = true
    · -- Comparisons of numbers take every text.
      cases op with
      | greaterThan | greaterOrEqual | lessThan | lessOrEqual => exact absurd trivial h
      | _ => cases hop
    · exact ⟨op.probe, (op.judges_apply _ right).exists_refusal (fits_probe (absurd · hop)) h⟩

/-- A text leads to a verdict, whatever it is compared with, exactly if the operator takes it and it
is a number where numbers are compared. -/
theorem exists_verdict_iff :
    (∃ left b, op.apply left right = .ok b) ↔
      op.Takes right ∧ (op.comparesNumbers = true → ∃ n, Number.parse? right = some n) := by
  constructor
  · rintro ⟨left, b, h⟩
    obtain ⟨htakes, hfits⟩ := (h ▸ op.judges_apply left right).of_ok
    exact ⟨htakes, hfits.exists_number⟩
  · rintro ⟨htakes, hnumber⟩
    exact ⟨op.probe, ((op.judges_apply _ right).exists_ok_iff (fits_probe hnumber)).mpr htakes⟩

end Operator

end FlowRouting
