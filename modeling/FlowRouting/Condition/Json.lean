import FlowRouting.Condition.Basic
import FlowRouting.Json.Decoding

/-!
# Conditions in node configurations

A condition is kept in the configuration of its node as plain values. Reading it back checks the
names of operators first, so that an unknown one is reported with its clause, then the shape of the
data, then what a condition must have beyond its shape: at least two paths, no clauses on the last
one, and a text to compare with wherever an operator needs one.
-/

namespace FlowRouting

open Json

/-! ## Errors -/

/-- What is wrong with the layout of a condition. -/
inductive LayoutFault where
  | tooFewPaths (n : Nat)
  | guardedFallback (pathId : String)
  | shape (m : Mismatch)
deriving DecidableEq

def LayoutFault.text : LayoutFault → String
  | .tooFewPaths n => s!"expected at least 2 paths, found {n}"
  | .guardedFallback pathId => "else path '" ++ pathId ++ "' must not have clauses"
  | .shape m => m.message

/-- Why a configuration is no condition. -/
inductive ConditionError where
  | invalidLayout (nodeId : String) (fault : LayoutFault)
  | invalidClause (clauseId : String) (source : EvalError)
  | missingClauseValue (clauseId : String) (operator : Operator)
deriving DecidableEq

def ConditionError.message : ConditionError → String
  | .invalidLayout nodeId fault => "Invalid condition on node '" ++ nodeId ++ "': " ++ fault.text
  | .invalidClause clauseId source =>
    "Clause '" ++ clauseId ++ "' is invalid: " ++ source.message
  | .missingClauseValue clauseId operator =>
    "Clause '" ++ clauseId ++ "' uses operator '" ++ operator.name ++ "' but has no value"

/-! ## Writing -/

/-- An entry that is left out if there is nothing to enter. -/
def optionalEntry (key : String) : Option String → List (String × Value)
  | some s => [(key, .text s)]
  | none => []

def LogicalOperator.name : LogicalOperator → String
  | .and => "AND"
  | .or => "OR"

def RoutingMode.name : RoutingMode → String
  | .strict => "strict"
  | .lenient => "lenient"

def Clause.toFields (c : Clause) : Fields :=
  Dict.ofList <|
    [("id", .text c.id), ("inputField", .text c.inputField), ("operator", .text c.operator.name)] ++
      optionalEntry "value" c.value

def Path.toFields (p : Path) : Fields :=
  Dict.ofList
    [("id", .text p.id), ("name", .text p.name),
      ("clauses", .array (p.clauses.map fun c ↦ .object c.toFields)),
      ("logicalOperator", .text p.logicalOperator.name)]

/-- The configuration that holds a condition. -/
def Condition.toFields (c : Condition) : Fields :=
  Dict.ofList <|
    [("paths", .array (c.paths.map fun p ↦ .object p.toFields))] ++
      optionalEntry "variableName" c.variableName ++
      optionalEntry "mode" (c.mode.map RoutingMode.name)

/-! ## Reading the data -/

/-- The names of logical operators, small letters included. -/
def LogicalOperator.variants : List (String × LogicalOperator) :=
  [("AND", .and), ("and", .and), ("OR", .or), ("or", .or)]

def RoutingMode.variants : List (String × RoutingMode) :=
  [("strict", .strict), ("lenient", .lenient)]

def Operator.decode : Decoder Operator
  | source, j => do
    let name ← Decoder.string source j
    match Operator.ofName? name with
    | some op => return op
    | none => throw (.refusedText (EvalError.unknownOperator name).message)

def Clause.shape : Shape Clause where
  name := "Clause"
  blank := ⟨"", "", .equals, none⟩
  fields :=
    [.required "id" .string fun id c ↦ { c with id },
      .required "inputField" .string fun inputField c ↦ { c with inputField },
      .required "operator" Operator.decode fun operator c ↦ { c with operator },
      .withDefault "value" (.optional .string) fun value c ↦ { c with value }]

def Path.shape : Shape Path where
  name := "Path"
  blank := ⟨"", "", [], .and⟩
  fields :=
    [.required "id" .string fun id p ↦ { p with id },
      .required "name" .string fun name p ↦ { p with name },
      .withDefault "clauses" (.list Clause.shape.decode) fun clauses p ↦ { p with clauses },
      .withDefault "logicalOperator" (.variant LogicalOperator.variants)
        fun logicalOperator p ↦ { p with logicalOperator }]

def Condition.shape : Shape Condition where
  name := "Condition"
  blank := ⟨[], none, none⟩
  fields :=
    [.required "paths" (.list Path.shape.decode) fun paths c ↦ { c with paths },
      .withDefault "variableName" (.optional .string) fun variableName c ↦ { c with variableName },
      .withDefault "mode" (.optional (.variant RoutingMode.variants)) fun mode c ↦ { c with mode }]

/-! ## Reading a configuration -/

/-- The items of a value that is a list. -/
def Value.items : Value → List Value
  | .array items => items
  | _ => []

/-- The clauses of a configuration, as values. -/
def rawClauses (config : Fields) : List Value :=
  ((Dict.get? config "paths").getD .null).items.flatMap fun path ↦ (path.getPath "clauses").items

/-- The error of a clause, given as a value, that names an operator which does not exist. -/
def operatorError? (clause : Value) : Option ConditionError :=
  match clause.getPath "operator" with
  | .text name =>
    match Operator.ofName? name with
    | some _ => none
    | none =>
      some (.invalidClause (clause.getPath "id").toText (EvalError.unknownOperator name))
  -- What has no operator in text form is left to the check of the shape.
  | _ => none

namespace Condition

/-- What a condition lacks beyond its shape. -/
def fault? (nodeId : String) (c : Condition) : Option ConditionError :=
  if c.paths.length < 2 then
    some (.invalidLayout nodeId (.tooFewPaths c.paths.length))
  else
    match c.fallback?.filter fun p ↦ !p.clauses.isEmpty with
    | some p => some (.invalidLayout nodeId (.guardedFallback p.id))
    | none =>
      (c.clauses.find? Clause.lacksValue).map fun clause ↦
        .missingClauseValue clause.id clause.operator

/-- The condition in a configuration. -/
def ofFields (nodeId : String) (config : Fields) : Except ConditionError Condition := do
  -- The shape would refuse an unknown operator, too, but without naming the clause.
  if let some e := (rawClauses config).findSome? operatorError? then throw e
  match shape.decode .tree (Value.object config).toJson with
  | .error m => throw (.invalidLayout nodeId (.shape m))
  | .ok c =>
    match c.fault? nodeId with
    | some e => throw e
    | none => return c

end Condition

end FlowRouting
