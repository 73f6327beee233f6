import FlowRouting.Node.Error
import FlowRouting.Uuid

/-!
# Why a workflow is rejected

These errors are found before a run starts and are always fatal.
-/

namespace FlowRouting

/-- What is wrong with the text of a clause, as far as it can be told before a run. -/
inductive StaticFault where
  | notTwoDates (found : Nat)
  | reversedDates
  | notNonNegative (value : String)
  | unknownType (value : String)
deriving DecidableEq

def StaticFault.text : StaticFault → String
  | .notTwoDates found => s!"expected two dates separated by ',', found {found}"
  | .reversedDates => "start date is after end date"
  | .notNonNegative value => "'" ++ value ++ "' is not a non-negative number"
  | .unknownType value => "unknown type name '" ++ value ++ "'"

/-- Why a workflow is rejected. -/
inductive WorkflowError where
  | notFound (id : Uuid)
  /-- A node could not be made from its configuration. -/
  | creationFailed (nodeId : String) (error : NodeError)
  | cyclicDependency
  | referenceCycle (nodeIds : List String)
  | nodeNotFound (id : String)
  | duplicateNodeId (id : String)
  | duplicateDisplayName (name : String) (nodeIds : List String)
  | reservedDisplayName (name : String)
  | unknownNodeType (nodeType : String)
  /-- An edge leads from a node to itself. -/
  | selfConnection (nodeId : String)
  | condition (error : ConditionError)
  | unknownBranchHandle (nodeId : String) (handle : String)
  | invalidRegex (clauseId : String) (pattern : String) (fault : Regex.Fault)
  | invalidDate (clauseId : String) (value : String)
  | malformedOperand (clauseId : String) (operator : Operator) (fault : StaticFault)
deriving DecidableEq

def WorkflowError.message : WorkflowError → String
  | .notFound id => "Workflow not found: " ++ id.toText
  | .creationFailed nodeId error =>
    "Invalid workflow: Failed to create node '" ++ nodeId ++ "': " ++ error.message
  | .cyclicDependency => "Cyclic dependency detected"
  | .referenceCycle nodeIds => "Reference cycle between nodes " ++ Text.quotedList nodeIds
  | .nodeNotFound id => "Node not found: " ++ id
  | .duplicateNodeId id => "Duplicate node id: " ++ id
  | .duplicateDisplayName name nodeIds =>
    "Display name '" ++ name ++ "' is used by several nodes: " ++ Text.quotedList nodeIds
  | .reservedDisplayName name => "Display name '" ++ name ++ "' is reserved"
  | .unknownNodeType nodeType => "Unknown node type: " ++ nodeType
  | .selfConnection nodeId =>
    "Invalid connection: node '" ++ nodeId ++ "' is connected to itself"
  | .condition error => error.message
  | .unknownBranchHandle nodeId handle =>
    "Edge from condition node '" ++ nodeId ++ "' names unknown path '" ++ handle ++ "'"
  | .invalidRegex clauseId pattern fault =>
    "Clause '" ++ clauseId ++ "' has a malformed regex '" ++ pattern ++ "': " ++ fault.message
  | .invalidDate clauseId value =>
    "Clause '" ++ clauseId ++ "' has a malformed date '" ++ value ++ "'"
  | .malformedOperand clauseId operator fault =>
    "Clause '" ++ clauseId ++ "' has a malformed operand for '" ++ operator.name ++ "': " ++
      fault.text

end FlowRouting
