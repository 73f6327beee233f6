/-!
# The catalog of node types

Every type of node has a name, a category, a description, and the output fields that it declares.
A type that declares none has fields that are known only after it ran.
-/

namespace FlowRouting

/-- A type of node that can run. -/
inductive NodeType where
  | condition
  | debugLog
  | input
  | output
  | text
  | delay
  | jsonParse
  | jsonStringify
deriving DecidableEq, Repr

/-- A declared output field. -/
structure OutputField where
  name : String
  description : String
deriving DecidableEq, Repr

namespace NodeType

def name : NodeType → String
  | .condition => "condition"
  | .debugLog => "debug.log"
  | .input => "input"
  | .output => "output"
  | .text => "text"
  | .delay => "time.delay"
  | .jsonParse => "transform.json_parse"
  | .jsonStringify => "transform.json_stringify"

/-- All types, in the order of their names. -/
def all : List NodeType :=
  [.condition, .debugLog, .input, .output, .text, .delay, .jsonParse, .jsonStringify]

def ofName? (name : String) : Option NodeType :=
  all.find? fun t ↦ t.name == name

def category : NodeType → String
  | .condition => "control"
  | .debugLog => "debug"
  | .input => "input"
  | .output => "output"
  | .text => "text"
  | .delay => "time"
  | .jsonParse | .jsonStringify => "transform"

def description : NodeType → String
  | .condition => "Select one outgoing branch from ordered, clause-guarded paths"
  | .debugLog => "Logs a message and input values for debugging"
  | .input => "Expose a field of the run input as text, image or json"
  | .output => "Publish a value as a branch result"
  | .text => "Render a \x7b\x7b...\x7d\x7d template"
  | .delay => "Delay execution for specified milliseconds, passing inputs through"
  | .jsonParse => "Parse JSON string"
  | .jsonStringify => "Convert value to JSON string"

/-- The output fields that a type declares. -/
def outputs : NodeType → List OutputField
  | .condition =>
    [⟨"matched", "False when the else path was taken"⟩, ⟨"pathId", "Id of the selected path"⟩,
      ⟨"pathName", "Name of the selected path"⟩]
  | .debugLog => [⟨"message", "Logged message"⟩]
  | .input => ["text", "image", "json"].map fun name ↦ ⟨name, "Present when inputType matches"⟩
  | .output => [⟨"output", "Published value"⟩]
  | .text => [⟨"text", "Rendered template"⟩]
  | .delay => []
  | .jsonParse => [⟨"parsed", "Parsed value"⟩]
  | .jsonStringify => [⟨"json", "Pretty-printed JSON"⟩]

@[simp] theorem ofName?_name (t : NodeType) : ofName? t.name = some t := by
  cases t <;> decide

theorem name_of_ofName? {name : String} {t : NodeType} (h : ofName? name = some t) :
    t.name = name := by
  simpa using List.find?_some h

end NodeType

end FlowRouting
