import FlowRouting.Node.Catalog
import FlowRouting.Workflow.Basic

/-!
# Output schemas

A schema says which output fields the nodes of a type will have. The table of schemas knows more
types than can run: those of services outside of this library are known by their fields alone.
-/

namespace FlowRouting

/-- The output fields of a type of node. -/
inductive OutputSchema where
  /-- Always the same fields. -/
  | fixed (fields : List String)
  /-- The fields of a variant, which the configuration names under a key. -/
  | bySubtype (configKey : String) (variants : Dict (List String)) (default : String)
  /-- The fields are known only after the node ran. -/
  | dynamic

/-- The fields of a schema for a configuration. -/
def OutputSchema.fieldsFor? (schema : OutputSchema) (spec : NodeSpec) :
    Option (List String) :=
  match schema with
  | .fixed fields => some fields
  | .bySubtype configKey variants default =>
    let subtype := (spec.configText? configKey).getD default
    some (((variants.get? subtype).or (variants.get? default)).getD [])
  | .dynamic => none

/-- Schemas by type of node. -/
abbrev Schemas := Dict OutputSchema

namespace Schemas

/-- The schemas of common types of nodes. -/
def builtin : Schemas :=
  Dict.ofList
    [("input",
        .bySubtype "inputType"
          (Dict.ofList (["text", "image", "json"].map fun subtype ↦ (subtype, [subtype]))) "text"),
      ("ai", .fixed ["response", "output", "content", "prompt_tokens"]),
      (conditionType, .fixed ["matched", "pathId", "pathName"]),
      ("text", .fixed ["text"]),
      ("output", .fixed ["output"]),
      ("slack", .fixed ["ok", "channel", "ts"]),
      ("notion", .fixed ["id", "url"]),
      ("jira", .fixed ["id", "key", "self"]),
      ("zoom", .fixed ["id", "join_url", "start_url"])]

/-- The schema that a type of node declares. -/
def declared (t : NodeType) : OutputSchema :=
  if t.outputs.isEmpty then .dynamic else .fixed (t.outputs.map OutputField.name)

/-- The schemas of common types, and of all types that can run. -/
def standard : Schemas :=
  NodeType.all.foldl
    (fun schemas t ↦
      if schemas.contains t.name then schemas else schemas.insert t.name (declared t))
    builtin

/-- The output fields that a node will have, if they are known. A condition has one more under the
name of its variable. -/
def fieldsFor? (schemas : Schemas) (spec : NodeSpec) : Option (List String) := do
  let fields ← (← schemas.get? spec.nodeType).fieldsFor? spec
  if spec.isCondition then
    return fields ++ ((spec.configText? "variableName").filter fun name ↦ !name.isEmpty).toList
  else return fields

end Schemas

end FlowRouting
