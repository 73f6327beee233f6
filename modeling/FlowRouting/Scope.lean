import FlowRouting.Calendar.Printer
import FlowRouting.Graph.Basic

/-!
# Scopes

During a run the references of a node are resolved in its scope: its ancestors, under their display
names or, where no display name is in the way, under their ids; what they have put out so far; and
the run itself, under the reserved namespaces.
-/

namespace FlowRouting

/-- What is fixed for the time of a run. -/
structure RunContext where
  executionId : Uuid
  workflowId : Uuid
  input : Value
  startedAt : Instant

/-- The outputs of nodes, by id. -/
abbrev OutputStore := Dict Fields

/-! ## Namespaces -/

/-- What a namespace stands for. -/
inductive Binding where
  | node (id : String)
  /-- Several nodes go by the same name. -/
  | ambiguous (ids : List String)
deriving DecidableEq

/-- What a name stands for that a node has beside those it stood for before. -/
def Binding.withNode (before : Option Binding) (id : String) : Binding :=
  match before with
  | none => .node id
  | some (.node other) => .ambiguous (sortTexts [other, id])
  | some (.ambiguous ids) => .ambiguous (sortTexts (ids ++ [id]))

/-- What namespaces stand for. -/
abbrev SymbolTable := Dict Binding

namespace SymbolTable

/-- Binds the display name of a node to it, beside the nodes that have the same name. -/
def bindName (table : SymbolTable) (n : NamedNode) : SymbolTable :=
  Dict.insert table n.displayName (Binding.withNode (Dict.get? table n.displayName) n.id)

/-- Binds the id of a node to it, unless it is bound already. -/
def bindId (table : SymbolTable) (n : NamedNode) : SymbolTable :=
  if Dict.contains table n.id then table else Dict.insert table n.id (.node n.id)

/-- The namespaces of some nodes: their display names and then, where no display name is in the way,
their ids. -/
def ofNodes (nodes : List NamedNode) : SymbolTable :=
  nodes.foldl bindId (nodes.foldl bindName [])

end SymbolTable

/-- What a namespace stands for among some nodes. -/
def binding? (nodes : List NamedNode) (scope : String) : Option Binding :=
  Dict.get? (SymbolTable.ofNodes nodes) scope

/-! ## Resolution -/

/-- The value at a path in a reserved namespace. -/
def RunContext.reserved (run : RunContext) (r : Reference) : Value :=
  if r.scope = "input" then run.input.getPath r.field
  else if r.scope = "now" then
    if r.field = "" then .text run.startedAt.toRfc3339
    else if r.field = "date" then .text run.startedAt.date.toText
    else if r.field = "timestamp" then .number (.ofInt run.startedAt.unixSeconds)
    else .null
  else
    Value.getPath
      (.object (Dict.ofList [("id", .text run.executionId.toText),
        ("workflowId", .text run.workflowId.toText)])) r.field

/-- The value at a path in the outputs of a node; all outputs, if the path is empty. -/
def outputAt (outputs : Fields) (field : String) : Value :=
  if field.isEmpty then .object outputs
  else
    -- A final dot leaves the empty path behind the first key, which is all of its value.
    match Text.splitOnce '.' field.toList with
    | some (head, rest) =>
      ((outputs.get? (String.ofList head)).map (·.getPath (String.ofList rest))).getD .null
    | none => (outputs.get? field).getD .null

/-- What a node sees: its ancestors, what they have put out, and the run. -/
structure Scope where
  nodes : List NamedNode
  outputs : OutputStore
  run : RunContext

def Graph.scope (g : Graph) (id : String) (outputs : OutputStore) (run : RunContext) : Scope :=
  ⟨g.ancestors id, outputs, run⟩

/-- Resolves a reference. -/
def Scope.resolve (s : Scope) : Variables := fun reference ↦
  let r := Reference.split reference
  -- Only here is a reference reported with the blanks around it.
  if r.scope.isEmpty then .error (.unknownVariable reference)
  else if Reference.isReserved r.scope then .ok (s.run.reserved r)
  else
    match binding? s.nodes r.scope with
    | none => .error (.unknownVariable reference.trimBlanks)
    | some (.ambiguous ids) => .error (.ambiguousNamespace r.scope ids)
    | some (.node id) =>
      match s.outputs.get? id with
      | none => .error (.notYetComputed r.scope id)
      | some outputs => .ok (outputAt outputs r.field)

end FlowRouting
