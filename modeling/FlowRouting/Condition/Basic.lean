import FlowRouting.EvalError

/-!
# Conditions

A condition routes a run: it is a list of paths, of which the first is taken whose clauses hold, or
else the last one. All paths but the last are *guarded* by their clauses; the last is the fallback.
-/

namespace FlowRouting

/-- How the clauses of a path are combined. -/
inductive LogicalOperator where
  | and
  | or
deriving DecidableEq, Repr

/-- What becomes of a path of which a clause cannot be evaluated: in strict mode the whole routing
fails, in lenient mode the path counts as one that does not hold. -/
inductive RoutingMode where
  | strict
  | lenient
deriving DecidableEq, Repr

/-- A comparison: the value of a field against a text. -/
structure Clause where
  id : String
  /-- A reference, or a template. -/
  inputField : String
  operator : Operator
  /-- The text to compare with, which may hold references. -/
  value : Option String
deriving DecidableEq

/-- Whether a clause lacks the text that its operator compares with. -/
def Clause.lacksValue (c : Clause) : Bool :=
  c.operator.requiresValue && c.value.all String.isBlank

/-- A way out of a condition. -/
structure Path where
  id : String
  name : String
  clauses : List Clause
  logicalOperator : LogicalOperator
deriving DecidableEq

/-- A condition as its author wrote it. -/
structure Condition where
  paths : List Path
  /-- A further output field that holds the routing as a record. -/
  variableName : Option String
  /-- The mode of this condition, in place of that of the workflow. -/
  mode : Option RoutingMode
deriving DecidableEq

namespace Condition

/-- The paths that are tried, in order. -/
def guarded (c : Condition) : List Path :=
  c.paths.dropLast

/-- The path that is taken when no other is. -/
def fallback? (c : Condition) : Option Path :=
  c.paths.getLast?

def clauses (c : Condition) : List Clause :=
  c.paths.flatMap Path.clauses

end Condition

/-! ## Selections -/

/-- The path that a condition took. -/
structure Selection where
  pathId : String
  pathName : String
  /-- Whether the clauses of the path held; the fallback is taken without asking. -/
  matched : Bool
  /-- The place of the path among all paths. -/
  index : Nat
deriving DecidableEq, Repr

namespace Selection

def record (s : Selection) : Fields :=
  Dict.ofList [("matched", .bool s.matched), ("pathId", .text s.pathId),
    ("pathName", .text s.pathName)]

/-- The output fields of a condition: those of the record, and the record as a whole under the
name of a variable. -/
def toOutputs (s : Selection) (variableName : Option String) : Fields :=
  match variableName with
  | none => s.record
  -- The record comes last: it takes the place of a field of the same name.
  | some name => if name.isEmpty then s.record else Dict.insert s.record name (.object s.record)

end Selection

end FlowRouting
