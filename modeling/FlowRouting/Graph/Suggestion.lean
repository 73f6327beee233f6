import FlowRouting.Graph.Basic
import FlowRouting.Schema

/-!
# Suggested references

An editor offers the references that a node can use: the reserved namespaces that mean something on
their own, and the fields of all ancestors, or their bare names if the fields are not known.
-/

namespace FlowRouting

/-- The references into the outputs of a node. -/
def NamedNode.suggestions (schemas : Schemas) (n : NamedNode) : List String :=
  match schemas.fieldsFor? n.spec with
  | some fields => fields.map fun field ↦ n.displayName ++ "." ++ field
  | none => [n.displayName]

/-- The references that a node can use. -/
def Graph.availableVariables (g : Graph) (schemas : Schemas) (id : String) : List String :=
  ["input", "now"] ++ (g.ancestors id).flatMap (·.suggestions schemas)

end FlowRouting
