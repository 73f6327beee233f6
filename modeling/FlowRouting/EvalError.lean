import FlowRouting.Operator
import FlowRouting.Regex.Parser
import FlowRouting.Text.Quoted
import FlowRouting.Value.Basic

/-!
# Why an evaluation fails

Clauses, templates and references are evaluated while a workflow runs. What can go wrong there is
listed here by cause; the wording is in one place.
-/

namespace FlowRouting

/-- What an operator takes on its left side. -/
inductive OperandType where
  | number
  | string
  | stringOrArray
  | date
deriving DecidableEq, Repr

def OperandType.text : OperandType → String
  | .number => "number"
  | .string => "string"
  | .stringOrArray => "string or array"
  | .date => "date"

/-- What an operator got in place of an operand of the right type. -/
inductive FoundOperand where
  /-- A value of another kind. -/
  | ofKind (kind : Value.Kind)
  /-- A text that does not read as what is expected. -/
  | ofText (s : String)
deriving DecidableEq

def FoundOperand.text : FoundOperand → String
  | .ofKind kind => kind.name
  | .ofText s => "string '" ++ s ++ "'"

/-- What is wrong with the text that an operator compares with. -/
inductive OperandFault where
  | unknownOperator
  | missingValue
  | notNonNegative
  | unrecognisedDate
  | notTwoDates
  | reversedDates
  | unknownType
  | badPattern (fault : Regex.Fault)
deriving DecidableEq

/-- The wording of the fault of an operand. -/
def OperandFault.text : OperandFault → String
  | .unknownOperator => "unknown operator"
  | .missingValue => "missing value"
  | .notNonNegative => "expected a non-negative number"
  | .unrecognisedDate => "unrecognised date format"
  | .notTwoDates => "expected two dates separated by ','"
  | .reversedDates => "start date is after end date"
  | .unknownType => "expected one of " ++ ", ".intercalate (Value.Kind.all.map Value.Kind.name)
  | .badPattern fault => fault.message

/-- Why an evaluation fails. -/
inductive EvalError where
  /-- The namespace of a reference is bound to nothing. -/
  | unknownVariable (reference : String)
  /-- The node that a namespace is bound to has no outputs. -/
  | notYetComputed (name : String) (nodeId : String)
  /-- Several nodes go by the name of a namespace. -/
  | ambiguousNamespace (name : String) (nodeIds : List String)
  /-- The left side of an operator is of the wrong type. -/
  | typeMismatch (operator : Operator) (expected : OperandType) (found : FoundOperand)
  /-- The text that an operator compares with is no operand for it. -/
  | invalidOperand (operator : String) (operand : String) (fault : OperandFault)
  /-- There is no path to choose from. -/
  | noPaths
deriving DecidableEq

namespace EvalError

/-- A name that is no operator. -/
def unknownOperator (name : String) : EvalError :=
  .invalidOperand name name .unknownOperator

def message : EvalError → String
  | .unknownVariable reference => "Unknown variable: '" ++ reference ++ "'"
  | .notYetComputed name nodeId =>
    "Variable namespace '" ++ name ++ "' refers to node '" ++ nodeId ++
      "' which has not produced outputs yet"
  | .ambiguousNamespace name nodeIds =>
    "Variable namespace '" ++ name ++ "' is ambiguous, matches nodes " ++ Text.quotedList nodeIds
  | .typeMismatch operator expected found =>
    "Operator '" ++ operator.name ++ "' expects " ++ expected.text ++ ", got " ++ found.text
  | .invalidOperand operator operand fault =>
    "Invalid operand '" ++ operand ++ "' for operator '" ++ operator ++ "': " ++ fault.text
  | .noPaths => "Condition node has no paths"

end EvalError

end FlowRouting
