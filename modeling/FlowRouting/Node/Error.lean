import FlowRouting.Condition.Json

/-!
# Why a node fails

A node fails before the run, because of its configuration, or during the run, because of what it
gets.
-/

namespace FlowRouting

/-- The kinds of data that an input node may expose. -/
def inputSubtypes : List String :=
  ["text", "image", "json"]

/-- What is wrong with the configuration of a node. -/
inductive ConfigurationFault where
  | unknownInputType (name : String)
  | condition (error : ConditionError)
  /-- A delay that is not a number, or a negative one, by its text. -/
  | invalidDelay (text : String)
deriving DecidableEq

def ConfigurationFault.text : ConfigurationFault → String
  | .unknownInputType name =>
    "unknown inputType '" ++ name ++ "', expected one of " ++ ", ".intercalate inputSubtypes
  | .condition error => error.message
  | .invalidDelay text => "delay_ms must be a non-negative number, got " ++ text

/-- What is wrong with an input of a node. -/
inductive InputFault where
  | notText
  | notJson (fault : Json.Fault)
deriving DecidableEq

def InputFault.text : InputFault → String
  | .notText => "expected string, got other"
  | .notJson fault => "expected JSON document, got " ++ fault.message

/-- Why a node fails. -/
inductive NodeError where
  | missingInput (name : String)
  | invalidInputType (field : String) (fault : InputFault)
  | configuration (fault : ConfigurationFault)
  /-- A text that was to be read as JSON is none. -/
  | executionFailed (fault : Json.Fault)
  | evaluation (error : EvalError)
  | timeout (ms : Nat)
  | cancelled
deriving DecidableEq

def NodeError.message : NodeError → String
  | .missingInput name => "Missing required input: " ++ name
  | .invalidInputType field fault => "Invalid input type for '" ++ field ++ "': " ++ fault.text
  | .configuration fault => "Configuration error: " ++ fault.text
  | .executionFailed fault => "Execution failed: JSON parse error: " ++ fault.message
  | .evaluation error => error.message
  | .timeout ms => s!"Timeout after {ms}ms"
  | .cancelled => "Cancelled"

end FlowRouting
