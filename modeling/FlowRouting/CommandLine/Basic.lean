import FlowRouting.CommandLine.Arguments
import FlowRouting.CommandLine.Example
import FlowRouting.CommandLine.Transcript
import FlowRouting.Engine
import FlowRouting.Graph.Suggestion
import FlowRouting.Json.Position

/-!
# Commands

Commands read and write files through two operations that they are handed, in whatever monad these
live, and end in a transcript. Everything else that differs from one call to the next is handed to
them as well.
-/

namespace FlowRouting.CommandLine

open Json

/-- How files are read and written; what goes wrong is told by a text. -/
structure Files (m : Type → Type) where
  read : String → m (Except String String)
  write : String → String → m (Except String Unit)

/-- What differs from one call to the next. -/
structure Surroundings where
  /-- The id of a workflow that has none. -/
  freshId : Uuid
  executionId : Uuid
  startedAt : Instant

/-! ## Lines -/

def eventLine : Event → String
  | .workflowStarted => "▶️  Workflow started"
  | .workflowCompleted true ms => s!"✨ Workflow completed successfully in {ms}ms"
  | .workflowCompleted false ms => s!"💥 Workflow failed after {ms}ms"
  | .nodeStarted id nodeType => "  ⚡ Starting node: " ++ id ++ " (" ++ nodeType ++ ")"
  | .nodeCompleted id _ ms => s!"  ✅ Node {id} completed in {ms}ms"
  | .nodeFailed id error => "  ❌ Node " ++ id ++ " failed: " ++ error.message
  | .nodeSkipped id => "  ⏭️  Node " ++ id ++ " skipped"
  | .pathSelected id pathId pathName matched =>
    "  🔀 " ++ id ++ " -> " ++ pathName ++ " [" ++ pathId ++ "]" ++
      if matched then "" else " (fallback)"
  | .noted id (.info message) => "     ℹ️  [" ++ id ++ "] " ++ message
  | .noted id (.warning message) => "     ⚠️  [" ++ id ++ "] " ++ message

/-- The lines of a section that is left out if it is empty. -/
def optionalSection (title : String) (lines : List String) : List String :=
  if lines.isEmpty then [] else "" :: title :: lines

def outputLines (nodeId : String) (outputs : Fields) : List String :=
  if outputs.isEmpty then []
  else
    ("   Node " ++ nodeId ++ ":") ::
      outputs.map fun o ↦ "     " ++ o.1 ++ ": " ++ o.2.toJson.compact

def summaryLines (r : RunResult) : List String :=
  let names (title : String) (ids : List String) : List String :=
    if ids.isEmpty then [] else [title ++ ", ".intercalate ids]
  ["", "📊 Execution Summary:", "   Execution ID: " ++ r.executionId.toText,
      s!"   Completed: {r.completedNodes}/{r.totalNodes} nodes"] ++
    names "   Skipped: " r.skippedNodes ++ names "   Failed: " r.failedNodes ++
    optionalSection "🔀 Routes:" (r.routes.map fun route ↦ "   " ++ route.1 ++ " -> " ++ route.2) ++
    if r.outputs.isEmpty then []
    else "" :: "📤 Outputs:" :: r.outputs.flatMap fun o ↦ outputLines o.1 o.2

/-- The name of a routing mode in running text. -/
def modeName : RoutingMode → String
  | .strict => "Strict"
  | .lenient => "Lenient"

/-- The lines that describe a type of node. -/
def nodeTypeLines (t : NodeType) : List String :=
  ["  • " ++ t.name ++ " (" ++ t.category ++ ")", "    " ++ t.description] ++
    if t.outputs.isEmpty then []
    else ["    outputs: " ++ ", ".intercalate (t.outputs.map OutputField.name)]

/-! ## Steps that fail with a chain of causes -/

def parseWorkflow (s : Surroundings) (file text : String) : Except (List String) Workflow :=
  (Workflow.parse s.freshId text).mapError fun m ↦
    let message := locatedMessage (Workflow.shape s.freshId).decode text m
    ["loading workflow " ++ file, "Serialization error: " ++ message, message]

/-- The workflow in a file that was read, or not. -/
def loadWorkflow (s : Surroundings) (file : String) (contents : Except String String) :
    Except (List String) Workflow :=
  match contents with
  | .ok text => parseWorkflow s file text
  | .error reason => .error ["loading workflow " ++ file, "IO error: " ++ reason, reason]

def parseInput (input : Option String) : Except (List String) Value :=
  match input with
  | none => .ok .null
  | some text =>
    (decodeText .value text).mapError fun m ↦
      ["input must be valid JSON", locatedMessage .value text m]

/-- The setup in a file that was read, or not. -/
def loadConfig (file : String) (contents : Except String String) :
    Except (List String) EngineConfig :=
  match contents with
  | .error reason => .error ["reading runtime config " ++ file, reason]
  | .ok text =>
    (decodeText EngineConfig.shape.decode text).mapError fun m ↦
      [locatedMessage EngineConfig.shape.decode text m]

/-- A node that passes the checks of its own. -/
def checkNode (spec : NodeSpec) : Except (List String) Unit := do
  let task ← spec.task.mapError workflowFailure
  (task.checkConfig spec.config).mapError fun e ↦ ["node '" ++ spec.id ++ "'", e.message]

/-- The warnings about a workflow that passes all checks. -/
def checkWorkflow (w : Workflow) : Except (List String) (List Warning) := do
  w.nodes.forM checkNode
  let g ← (Graph.build w).mapError workflowFailure
  (g.validate Schemas.standard).mapError workflowFailure

/-! ## Commands -/

/-- Ends with a chain of causes, or goes on. -/
def orFail (r : Except (List String) α) (go : α → Transcript) : Transcript :=
  match r with
  | .ok a => go a
  | .error failure => .failed failure

/-- What is said before a run. -/
def headLines (w : Workflow) : List String :=
  ["📋 Workflow: " ++ w.name, s!"   Nodes: {w.nodes.length}", s!"   Edges: {w.edges.length}",
    "   Routing: " ++ modeName w.settings.routing, ""]

/-- Runs a workflow and tells about it. -/
def reportRun (s : Surroundings) (w : Workflow) (input : Value) : Transcript :=
  let run := w.run (Engine.context w s.executionId s.startedAt input) .never
  let lines := run.events.map eventLine
  let elapsed := run.history.clock
  match run.result with
  | .ok r => { lines := lines ++ summaryLines r, elapsed }
  | .error e => { lines, failure := runFailure e, elapsed }

/-- Runs a workflow on an engine with a setup. -/
def runOnEngine (s : Surroundings) (w : Workflow) (input : Value) (config : EngineConfig) :
    Transcript :=
  match Engine.new? config with
  | some _ => reportRun s w input
  | none => .failed ["the event buffer must hold at least one event"]

/-- Tells whether a workflow is valid. -/
def reportValidity (w : Workflow) (warnings : List Warning) : Transcript where
  lines :=
    ["✅ Workflow is valid:", "   Name: " ++ w.name, s!"   Nodes: {w.nodes.length}",
        s!"   Edges: {w.edges.length}"] ++
      optionalSection "⚠️  Warnings:" (warnings.map fun warning ↦ "   - " ++ warning.message)

/-- Lists the references that a node can use. -/
def reportVariables (w : Workflow) (file node : String) : Transcript :=
  orFail ((Graph.build w).mapError workflowFailure) fun g ↦
    match g.node? node with
    | none => .failed ["node '" ++ node ++ "' not found in " ++ file]
    | some _ =>
      { lines := ("🧩 Variables available to " ++ node ++ ":") ::
          (g.availableVariables Schemas.standard node).map fun v ↦
            "   \x7b\x7b" ++ v ++ "\x7d\x7d" }

/-- What is said after an example was written. -/
def exampleLines (output : String) : List String :=
  ["✨ Created example workflow: " ++ output, "", "Run it with:",
    "  branch run --file " ++ output ++
      " --input '\x7b\"ticket\": \x7b\"message\": \"urgent: db down\", \"priority\": 3\x7d\x7d'"]

variable {m : Type → Type} [Monad m]

/-- Runs the workflow of a file. -/
def performRun (files : Files m) (s : Surroundings) (file : String) (input : Option String)
    (lenient : Bool) (config : Option String) : m Transcript := do
  let said (t : Transcript) := t.behind ["🚀 Loading workflow from: " ++ file]
  match loadWorkflow s file (← files.read file) with
  | .error failure => return said (.failed failure)
  | .ok w =>
    let w :=
      if lenient then { w with settings := { w.settings with routing := .lenient } } else w
    let said (t : Transcript) := said (t.behind (headLines w))
    match parseInput input with
    | .error failure => return said (.failed failure)
    | .ok input =>
      let setup ←
        match config with
        | none => pure (.ok {})
        | some file => loadConfig file <$> files.read file
      return said (orFail setup (runOnEngine s w input))

def Command.perform (files : Files m) (s : Surroundings) : Command → m Transcript
  | .run file input lenient config => performRun files s file input lenient config
  | .validate file => do
    let contents ← files.read file
    return Transcript.behind ["🔍 Validating workflow: " ++ file] <|
      orFail (loadWorkflow s file contents) fun w ↦
        orFail (checkWorkflow w) (reportValidity w)
  | .nodes =>
    pure { lines := ["📦 Available Node Types:", ""] ++ NodeType.all.flatMap nodeTypeLines }
  | .variables file node => do
    let contents ← files.read file
    return orFail (loadWorkflow s file contents) (reportVariables · file node)
  | .init output => do
    match ← files.write output (exampleWorkflow s.freshId).toJson.pretty with
    | .ok () => return { lines := exampleLines output }
    | .error reason => return .failed [reason]

end FlowRouting.CommandLine
