import FlowRouting.Condition.Comparison
import FlowRouting.Template
import FlowRouting.Workflow.Error

/-!
# Operands that are known before a run

The text of a clause without any opening braces is the same in every run. What its operator would
refuse then is refused beforehand.
-/

namespace FlowRouting.Validation

/-- A date in the text of a clause. -/
def staticDate (c : Clause) (s : String) : Except WorkflowError Timestamp :=
  match Timestamp.parse? s with
  | some t => .ok t
  | none => .error (.invalidDate c.id s.trimBlanks)

/-- Checks a text that an operator will compare with. -/
def checkOperand (c : Clause) (value : String) : Except WorkflowError Unit :=
  let malformed (fault : StaticFault) : WorkflowError := .malformedOperand c.id c.operator fault
  match c.operator with
  | .matchesRegex =>
    match Regex.parse value with
    | .ok _ => .ok ()
    | .error fault => .error (.invalidRegex c.id value fault)
  | .dateBefore | .dateAfter | .dateEquals => (staticDate c value).map fun _ ↦ ()
  | .dateBetween =>
    match value.pieces ',' with
    | [start, finish] => do
      let start ← staticDate c start
      let finish ← staticDate c finish
      if start.compare finish = .gt then throw (malformed .reversedDates)
    | pieces => .error (malformed (.notTwoDates pieces.length))
  | .lengthEquals | .lengthGreaterThan | .lengthLessThan =>
    if (Number.parse? value).any Number.isNonNegative then .ok ()
    else .error (malformed (.notNonNegative value))
  | .typeEquals =>
    if (Value.Kind.parse? value).isSome then .ok () else .error (malformed (.unknownType value))
  -- The other texts are only read in the run; a comparison of numbers may refuse them there.
  | _ => .ok ()

/-- Checks the text of a clause, unless it depends on the run. -/
def checkStaticOperand (c : Clause) : Except WorkflowError Unit :=
  match c.value with
  | none => .ok ()
  | some value => if Template.hasOpening value then .ok () else checkOperand c value

end FlowRouting.Validation
