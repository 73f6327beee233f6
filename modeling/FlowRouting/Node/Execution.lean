import FlowRouting.Condition.Selection
import FlowRouting.Node.Task

/-!
# Executing a node

A node reads its inputs and the references of its configuration, reports notes on the way, and in
the end has outputs or an error. Time does not pass while it does so; a delay says how long it wants
to wait, and whether it gets to is decided by the run.
-/

namespace FlowRouting

/-- A note that a node reports while it runs. -/
inductive Note where
  | info (message : String)
  | warning (message : String)
deriving DecidableEq

/-- What a node puts out. -/
structure NodeOutput where
  outputs : Fields
  /-- The path that a condition took. -/
  branch : Option String := none

/-- What a node is given. -/
structure NodeContext where
  displayName : String
  inputs : Fields
  bindings : Variables
  /-- The mode of conditions that do not say which. -/
  routing : RoutingMode

/-- What a node does: its notes, then a wait in milliseconds, then a result. -/
structure Execution where
  notes : List Note := []
  wait : Nat := 0
  result : Except NodeError NodeOutput

/-- A single output field. -/
def NodeOutput.single (field : String) (value : Value) : NodeOutput :=
  { outputs := [(field, value)] }

/-- A result under the name of an output field. -/
def asOutput (field : String) (result : Except NodeError Value) : Except NodeError NodeOutput :=
  result.map (NodeOutput.single field)

/-- An evaluation as a step of a node. -/
def evaluating (result : Except EvalError α) : Except NodeError α :=
  result.mapError NodeError.evaluation

namespace NodeContext

variable (ctx : NodeContext)

/-- An input that must be there. -/
def requireInput (name : String) : Except NodeError Value :=
  match ctx.inputs.get? name with
  | some v => .ok v
  | none => .error (.missingInput name)

/-! ## Conditions -/

/-- The note about a path that was passed over. -/
def downgradeNote (d : Downgrade) : Note :=
  .warning ("path '" ++ d.path.id ++ "' not matched: clause '" ++ d.failure.clauseId ++
    "' failed: " ++ d.failure.error.message)

/-- The note about the path that was taken. -/
def selectionNote (s : Selection) : Note :=
  .info (ctx.displayName ++ " -> " ++ s.pathName ++ if s.matched then "" else " (fallback)")

def route (c : Condition) : Execution :=
  let routing := Routing.choose ctx.bindings (c.mode.getD ctx.routing) c.paths
  let warnings := routing.downgrades.map downgradeNote
  match routing.outcome with
  | .ok s =>
    { notes := warnings ++ [ctx.selectionNote s]
      result := .ok { outputs := s.toOutputs c.variableName, branch := some s.pathId } }
  | .error e => { notes := warnings, result := .error (.evaluation e) }

/-! ## Other nodes -/

/-- The value of an input node: a field of the run input, or a default. Texts are read as JSON if
that is the subtype; for the other subtypes every value becomes a text. -/
def readInput (subtype key : String) (default : Value) : Except NodeError Value := do
  let found ← evaluating (ctx.bindings ("input." ++ key))
  let value :=
    match found with
    | .null => default
    | v => v
  if subtype = "json" then
    match value with
    | .text raw =>
      (Value.parse raw).mapError fun fault ↦ .invalidInputType key (.notJson fault)
    | v => return v
  else return .text value.toText

def debugMessage (message : Option String) : Except NodeError String :=
  match message with
  | some template => evaluating (Template.interpolate ctx.bindings template)
  | none => .ok (((ctx.inputs.get? "message").map Value.toText).getD "(no message)")

/-- Reports a message and all inputs. -/
def debugLog (message : Option String) : Execution :=
  match ctx.debugMessage message with
  | .error e => { result := .error e }
  | .ok text =>
    { notes := .info ("DEBUG: " ++ text) ::
        ctx.inputs.map fun input ↦ .info ("  " ++ input.1 ++ ": " ++ input.2.toText)
      result := .ok (.single "message" (.text text)) }

def publish (value : String) : Execution :=
  let published :=
    -- A text without braces is published as it stands, even if it reads like a reference.
    if Template.hasOpening value then Template.resolveOperand ctx.bindings value
    else .ok (.text value)
  match published with
  | .error e => { result := .error (.evaluation e) }
  | .ok v =>
    { notes := [.info (ctx.displayName ++ " = " ++ v.toText)]
      result := .ok (.single "output" v) }

/-- The text that is to be read as JSON. -/
def jsonText (source : Option String) : Except NodeError String :=
  match source with
  | some template => evaluating (Template.interpolate ctx.bindings template)
  | none => do
    match ← ctx.requireInput "json" with
    | .text s => return s
    | _ => throw (.invalidInputType "json" .notText)

def parseJson (source : Option String) : Except NodeError Value := do
  (Value.parse (← ctx.jsonText source)).mapError .executionFailed

def writeJson (source : Option String) : Except NodeError Value := do
  let v ←
    match source with
    | some operand => evaluating (Template.resolveOperand ctx.bindings operand)
    | none => ctx.requireInput "value"
  return .text v.toJson.pretty

end NodeContext

def Task.execute (task : Task) (ctx : NodeContext) : Execution :=
  match task with
  | .condition c => ctx.route c
  | .debugLog message => ctx.debugLog message
  | .input subtype key default =>
    { result := asOutput subtype (ctx.readInput subtype key default) }
  | .output value => ctx.publish value
  | .text template =>
    { result := asOutput "text"
        (evaluating ((Template.interpolate ctx.bindings template).map .text)) }
  | .delay ms =>
    { notes := [.info s!"Delaying for {ms}ms"]
      wait := ms
      result := .ok { outputs := ctx.inputs } }
  | .jsonParse source => { result := asOutput "parsed" (ctx.parseJson source) }
  | .jsonStringify source => { result := asOutput "json" (ctx.writeJson source) }

end FlowRouting
