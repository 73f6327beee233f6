import FlowRouting.Condition.Json
import FlowRouting.Workflow.Basic

/-!
# Workflows as JSON

A workflow is written with its fields in a fixed order and without optional fields that are absent;
only the time limit is written as null. A workflow that is read without an id is given a fresh one.
-/

namespace FlowRouting

open Json

/-! ## Writing -/

/-- A member that is left out if there is nothing to write. -/
def optionalMember (key : String) : Option String → List (String × Json)
  | some s => [(key, .string s)]
  | none => []

def NodeSpec.toJson (spec : NodeSpec) : Json :=
  .object <|
    [("id", .string spec.id), ("type", .string spec.nodeType)] ++
      optionalMember "displayName" spec.displayName ++
      [("config", (Value.object spec.config).toJson)]

def Edge.toJson (e : Edge) : Json :=
  .object <|
    [("source", .string e.source), ("target", .string e.target)] ++
      optionalMember "sourceHandle" e.sourceHandle ++
      optionalMember "targetHandle" e.targetHandle

def ErrorHandling.name : ErrorHandling → String
  | .stopWorkflow => "StopWorkflow"
  | .continueOnError => "ContinueOnError"

def Settings.toJson (s : Settings) : Json :=
  .object
    [("maxExecutionTimeMs",
        match s.maxExecutionTimeMs with
        | some n => .number (.natural n.toNat)
        | none => .null),
      ("onError", .string s.onError.name), ("routing", .string s.routing.name)]

def Workflow.toJson (w : Workflow) : Json :=
  .object <|
    [("id", .string w.id.toText), ("name", .string w.name)] ++
      optionalMember "description" w.description ++
      [("nodes", .array (w.nodes.map NodeSpec.toJson)),
        ("edges", .array (w.edges.map Edge.toJson)), ("settings", w.settings.toJson)]

/-! ## Reading -/

def Uuid.decode : Decoder Uuid
  | _, .string s =>
    match Uuid.parse? s with
    | some id => .ok id
    | none => .error (.refusedText "UUID parsing failed: not an identifier")
  | _, j => .error (mismatch .identifier j)

def NodeSpec.shape : Shape NodeSpec where
  name := "NodeSpec"
  blank := { id := "", nodeType := "" }
  fields :=
    [.required "id" .string fun id n ↦ { n with id },
      .required "type" .string fun nodeType n ↦ { n with nodeType },
      .withDefault "displayName" (.optional .string) fun displayName n ↦ { n with displayName },
      .withDefault "config" .fields fun config n ↦ { n with config }]

def Edge.shape : Shape Edge where
  name := "Edge"
  blank := { source := "", target := "" }
  fields :=
    [.required "source" .string fun source e ↦ { e with source },
      .required "target" .string fun target e ↦ { e with target },
      .withDefault "sourceHandle" (.optional .string) fun sourceHandle e ↦ { e with sourceHandle },
      .withDefault "targetHandle" (.optional .string) fun targetHandle e ↦ { e with targetHandle }]

/-- The names of the ways to handle errors. -/
def ErrorHandling.variants : List (String × ErrorHandling) :=
  [("StopWorkflow", .stopWorkflow), ("ContinueOnError", .continueOnError)]

def Settings.shape : Shape Settings where
  name := "WorkflowSettings"
  blank := {}
  fields :=
    [.withDefault "maxExecutionTimeMs" (.optional (.natural .count))
        fun ms s ↦ { s with maxExecutionTimeMs := ms.map UInt64.ofNat },
      .withDefault "onError" (.variant ErrorHandling.variants) fun onError s ↦ { s with onError },
      .withDefault "routing" (.variant RoutingMode.variants) fun routing s ↦ { s with routing }]

/-- The shape of a workflow, which gets a fresh id unless it has one. -/
def Workflow.shape (freshId : Uuid) : Shape Workflow where
  name := "Workflow"
  blank := { id := freshId, name := "" }
  fields :=
    [.withDefault "id" Uuid.decode fun id w ↦ { w with id },
      .required "name" .string fun name w ↦ { w with name },
      .withDefault "description" (.optional .string) fun description w ↦ { w with description },
      .required "nodes" (.list NodeSpec.shape.decode) fun nodes w ↦ { w with nodes },
      .withDefault "edges" (.list Edge.shape.decode) fun edges w ↦ { w with edges },
      .withDefault "settings" Settings.shape.decode fun settings w ↦ { w with settings }]

/-- Reads a workflow. -/
def Workflow.parse (freshId : Uuid) (s : String) : Except Mismatch Workflow :=
  decodeText (Workflow.shape freshId).decode s

end FlowRouting
