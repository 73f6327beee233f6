import FlowRouting.Workflow.Json

/-!
# An example workflow

The workflow that is written for someone who begins: a form, a condition on it, and a node behind
either path.
-/

namespace FlowRouting.CommandLine

def exampleCondition : Condition where
  paths :=
    [{ id := "urgent", name := "Urgent", logicalOperator := .or
       clauses :=
         [⟨"c1", "form.json.message", .contains, some "urgent"⟩,
           ⟨"c2", "\x7b\x7bform.json.priority\x7d\x7d", .greaterOrEqual, some "8"⟩] },
      { id := "normal", name := "Normal", logicalOperator := .and, clauses := [] }]
  variableName := some "route"
  mode := none

def exampleNodes : List NodeSpec :=
  [{ id := "n1", nodeType := "input", displayName := some "form"
     config := Dict.ofList [("inputType", .text "json"), ("key", .text "ticket")] },
    { id := "n2", nodeType := conditionType, displayName := some "triage"
      config := exampleCondition.toFields },
    { id := "n3", nodeType := "text", displayName := some "page"
      config :=
        Dict.ofList [("template", .text "Paging on-call: \x7b\x7bform.json.message\x7d\x7d")] },
    { id := "n4", nodeType := "output", displayName := some "queue"
      config := Dict.ofList [("value", .text "\x7b\x7btriage.route\x7d\x7d")] }]

def exampleEdges : List Edge :=
  [{ source := "n1", target := "n2" },
    { source := "n2", target := "n3", sourceHandle := some "urgent" },
    { source := "n2", target := "n4", sourceHandle := some "normal" }]

/-- The example, under an id. -/
def exampleWorkflow (id : Uuid) : Workflow where
  id
  name := "Example Routing Workflow"
  description := some "Routes a support message by keyword and priority"
  nodes := exampleNodes
  edges := exampleEdges

end FlowRouting.CommandLine
