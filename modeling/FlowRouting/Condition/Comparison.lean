import FlowRouting.Calendar.Parser
import FlowRouting.Condition.Basic
import FlowRouting.Number.Decimal
import FlowRouting.Regex.Matching
import FlowRouting.Value.Json

/-!
# Comparing a value with a text

An operator compares a value of any kind with a text. Each family of operators reads both sides in
its own way, as numbers, texts, lengths or dates, and fails if a side does not read so; within a
family the operators differ only in which orderings they accept.
-/

namespace FlowRouting

/-! ## Views of a value -/

/-- The number that a value is, or that its text writes. -/
def Value.toNumber? : Value → Option Number
  | .number n => some n
  | .text s => Number.parse? s
  | _ => none

/-- The text of a value that is a text, a number or a truth value. -/
def Value.toScalarText? : Value → Option String
  | .text s => some s
  | .number n => some n.toText
  | .bool b => some (Value.bool b).toText
  | _ => none

/-- Whether a value equals a text: as numbers, if both sides are, and as texts otherwise. -/
def Value.looselyEquals (v : Value) (s : String) : Bool :=
  match v.toNumber?, Number.parse? s with
  | some a, some b => a.equals b
  | _, _ => v.toText == s

/-- The kind whose name a text is, blanks around it and the case of letters aside. -/
def Value.Kind.parse? (s : String) : Option Value.Kind :=
  Value.Kind.ofName? (String.ofList (Text.toLowerAscii (Text.trim s.toList)))

namespace Operator

/-! ## Failing -/

/-- The error of an operator on a text that it cannot compare with. -/
def refuse (op : Operator) (operand : String) (fault : OperandFault) : EvalError :=
  .invalidOperand op.name operand fault

/-- The error of an operator on a value of the wrong kind. -/
def mistyped (op : Operator) (expected : OperandType) (v : Value) : EvalError :=
  .typeMismatch op expected (.ofKind v.kind)

/-! ## Reading the sides -/

/-- The text of a scalar on the left side. -/
def scalar (op : Operator) (left : Value) : Except EvalError String :=
  match left.toScalarText? with
  | some s => .ok s
  | none => .error (op.mistyped .string left)

def leftDate (op : Operator) : Value → Except EvalError Timestamp
  | .text s =>
    match Timestamp.parse? s with
    | some t => .ok t
    | none => .error (.typeMismatch op .date (.ofText s))
  | v => .error (op.mistyped .date v)

def rightDate (op : Operator) (s : String) : Except EvalError Timestamp :=
  match Timestamp.parse? s with
  | some t => .ok t
  | none => .error (op.refuse s .unrecognisedDate)

/-- The length of a text or a list on the left side. -/
def leftLength (op : Operator) : Value → Except EvalError Nat
  | .text s => .ok s.length
  | .array items => .ok items.length
  | v => .error (op.mistyped .stringOrArray v)

/-- The text of a list, cut at its commas. -/
def listItems (s : String) : List String :=
  (s.pieces ',').map String.trimBlanks

/-! ## Families -/

/-- Compares two numbers. Not-a-number compares with nothing. -/
def compareNumbers (op : Operator) (left : Value) (right : String) (accept : Ordering → Bool) :
    Except EvalError Bool :=
  match left.toNumber?, Number.parse? right with
  | none, _ => .error (op.mistyped .number left)
  | some _, none => .error (.typeMismatch op .number (.ofText right))
  | some a, some b => .ok ((a.compare? b).any accept)

/-- Compares a length with a number that is not negative. -/
def compareLength (op : Operator) (left : Value) (right : String) (accept : Ordering → Bool) :
    Except EvalError Bool := do
  let length ← op.leftLength left
  match (Number.parse? right).filter Number.isNonNegative with
  | none => throw (op.refuse right .notNonNegative)
  | some n => return ((Number.ofInt length).compare? n).any accept

def compareDate (op : Operator) (left : Value) (right : String) (accept : Ordering → Bool) :
    Except EvalError Bool := do
  let a ← op.leftDate left
  let b ← op.rightDate right
  return accept (a.compare b)

/-- Whether a date lies between two others, both included. -/
def dateWithin (op : Operator) (left : Value) (right : String) : Except EvalError Bool :=
  match listItems right with
  | [start, finish] => do
    let start ← op.rightDate start
    let finish ← op.rightDate finish
    -- The range is checked before the left side is read, so its faults are reported first.
    if start.compare finish = .gt then throw (op.refuse right .reversedDates)
    let date ← op.leftDate left
    return date.compare start != .lt && date.compare finish != .gt
  | _ => .error (op.refuse right .notTwoDates)

/-- Whether a list has an item that equals a text, or the text of a scalar has it as a part. -/
def holds (op : Operator) (left : Value) (right : String) : Except EvalError Bool :=
  match left with
  | .array items => .ok (items.any fun item ↦ item.looselyEquals right)
  | .text _ | .number _ | .bool _ => .ok (left.toText.hasPart right)
  | .null | .object _ => .error (op.mistyped .stringOrArray left)

/-- Whether the text of a scalar is among the items of a list. -/
def listed (op : Operator) (left : Value) (right : String) : Except EvalError Bool := do
  let s ← op.scalar left
  return (listItems right).contains s

/-- Whether a part of the text of a scalar matches a pattern. -/
def matchesPattern (op : Operator) (left : Value) (right : String) : Except EvalError Bool := do
  let s ← op.scalar left
  match Regex.parse right with
  | .ok r => return r.isMatch s
  | .error fault => throw (op.refuse right (.badPattern fault))

/-- Whether a value is of the kind that a text names. -/
def hasKind (op : Operator) (left : Value) (right : String) : Except EvalError Bool :=
  match Value.Kind.parse? right with
  | some kind => .ok (left.kind == kind)
  | none => .error (op.refuse right .unknownType)

/-! ## All operators -/

/-- Applies an operator to a value and a text. The tests for emptiness ignore the text. -/
def apply (op : Operator) (left : Value) (right : String) : Except EvalError Bool :=
  match op with
  | .equals => .ok (left.looselyEquals right)
  | .notEquals => .ok !left.looselyEquals right
  | .greaterThan => op.compareNumbers left right (· == .gt)
  | .greaterOrEqual => op.compareNumbers left right (· != .lt)
  | .lessThan => op.compareNumbers left right (· == .lt)
  | .lessOrEqual => op.compareNumbers left right (· != .gt)
  | .contains => op.holds left right
  | .notContains => (op.holds left right).map (!·)
  | .startsWith => (op.scalar left).map fun s ↦ right.toList.isPrefixOf s.toList
  | .endsWith => (op.scalar left).map fun s ↦ right.toList.isSuffixOf s.toList
  | .isEmpty => .ok left.isEmpty
  | .isNotEmpty => .ok !left.isEmpty
  | .matchesRegex => op.matchesPattern left right
  | .inList => op.listed left right
  | .notInList => (op.listed left right).map (!·)
  | .lengthEquals => op.compareLength left right (· == .eq)
  | .lengthGreaterThan => op.compareLength left right (· == .gt)
  | .lengthLessThan => op.compareLength left right (· == .lt)
  | .dateBefore => op.compareDate left right (· == .lt)
  | .dateAfter => op.compareDate left right (· == .gt)
  | .dateEquals => op.compareDate left right (· == .eq)
  | .dateBetween => op.dateWithin left right
  | .typeEquals => op.hasKind left right

end Operator

end FlowRouting
