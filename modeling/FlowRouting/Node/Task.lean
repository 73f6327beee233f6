import FlowRouting.Node.Catalog
import FlowRouting.Workflow.Basic
import FlowRouting.Workflow.Error

/-!
# Tasks

A task is what a node has to do, read off its type and its configuration once before a run.
-/

namespace FlowRouting

/-- What a node has to do. -/
inductive Task where
  /-- Choose a path. -/
  | condition (c : Condition)
  /-- Report a message and all inputs. -/
  | debugLog (message : Option String)
  /-- Expose a field of the run input as one of the input subtypes. -/
  | input (subtype : String) (key : String) (default : Value)
  /-- Publish a value. -/
  | output (value : String)
  /-- Render a template. -/
  | text (template : String)
  /-- Wait, then pass all inputs on. -/
  | delay (ms : Nat)
  /-- Read a text as JSON: that of a template, or else of an input. -/
  | jsonParse (source : Option String)
  /-- Write a value as JSON: that of an operand, or else of an input. -/
  | jsonStringify (source : Option String)

/-- The time that a node waits which does not say how long, in milliseconds. -/
def defaultDelay : Nat :=
  1000

/-- The task of an input node. -/
def NodeSpec.inputTask (spec : NodeSpec) : Except NodeError Task :=
  let subtype := (spec.configText? "inputType").getD "text"
  if inputSubtypes.contains subtype then
    .ok (.input subtype ((spec.configText? "key").getD subtype)
      ((spec.config.get? "default").getD .null))
  else .error (.configuration (.unknownInputType subtype))

/-- The time that a delay node waits. -/
def NodeSpec.delay (spec : NodeSpec) : Nat :=
  match (spec.config.get? "delay_ms").bind Value.asNumber? with
  | some n => n.toCount
  | none => defaultDelay

/-- The task of a node of a given type. -/
def NodeSpec.taskAs (spec : NodeSpec) : NodeType → Except NodeError Task
  | .condition =>
    ((Condition.ofFields spec.id spec.config).map Task.condition).mapError fun e ↦
      .configuration (.condition e)
  | .debugLog => .ok (.debugLog (spec.configText? "message"))
  | .input => spec.inputTask
  | .output => .ok (.output ((spec.configText? "value").getD ""))
  | .text => .ok (.text ((spec.configText? "template").getD ""))
  | .delay => .ok (.delay spec.delay)
  | .jsonParse => .ok (.jsonParse (spec.configText? "json"))
  | .jsonStringify => .ok (.jsonStringify (spec.configText? "value"))

def NodeSpec.task (spec : NodeSpec) : Except WorkflowError Task :=
  match NodeType.ofName? spec.nodeType with
  | none => .error (.unknownNodeType spec.nodeType)
  | some t => (spec.taskAs t).mapError (.creationFailed spec.id)

namespace Task

/-- The type of the nodes that have a task. -/
def nodeType : Task → NodeType
  | .condition _ => .condition
  | .debugLog _ => .debugLog
  | .input .. => .input
  | .output _ => .output
  | .text _ => .text
  | .delay _ => .delay
  | .jsonParse _ => .jsonParse
  | .jsonStringify _ => .jsonStringify

/-- Checks a configuration for what making the task of it does not look at. -/
def checkConfig (task : Task) (config : Fields) : Except NodeError Unit :=
  match task with
  | .condition _ =>
    -- This check is not told the node; the type stands in its place in the error.
    ((Condition.ofFields "condition" config).map fun _ ↦ ()).mapError fun e ↦
      .configuration (.condition e)
  | .delay _ =>
    match config.get? "delay_ms" with
    | none => .ok ()
    | some v =>
      if (v.asNumber?).any Number.isNonNegative then .ok ()
      else .error (.configuration (.invalidDelay v.toText))
  | _ => .ok ()

end Task

end FlowRouting
