import FlowRouting.Condition.Json
import FlowRouting.Digraph.Cycle
import FlowRouting.Graph.Basic
import FlowRouting.Schema
import FlowRouting.Validation.Operand

/-!
# Checks before a run

A graph is checked for everything in its configuration that would otherwise surface in the middle of
a run. Errors are fatal, and the first one is reported; what is merely suspicious becomes a warning.
-/

namespace FlowRouting

/-- What is suspicious about a workflow. -/
inductive Warning where
  | alwaysMatches (pathId : String) (nodeId : String)
  | unknownNamespace (nodeId : String) (scope : String)
  | unknownField (nodeId : String) (reference : String) (scope : String) (field : String)
  | notAbove (nodeId : String) (scope : String)
deriving DecidableEq

def Warning.message : Warning → String
  | .alwaysMatches pathId nodeId =>
    "path '" ++ pathId ++ "' on node '" ++ nodeId ++ "' has no clauses and always matches"
  | .unknownNamespace nodeId scope =>
    "node '" ++ nodeId ++ "' references unknown namespace '" ++ scope ++ "'"
  | .unknownField nodeId reference scope field =>
    "node '" ++ nodeId ++ "' references '" ++ reference ++ "', but '" ++ scope ++
      "' produces no field '" ++ field ++ "'"
  | .notAbove nodeId scope =>
    "node '" ++ nodeId ++ "' references '" ++ scope ++ "', which is not upstream of it"

namespace Validation

/-! ## Names -/

/-- Checks that no display name is reserved and that no two nodes share one. -/
def checkDisplayNames (g : Graph) : Except WorkflowError Unit := do
  let names := g.nodes.map NamedNode.displayName
  if let some name := names.find? Reference.isReserved then throw (.reservedDisplayName name)
  let shared := names.filter fun name ↦ 1 < names.count name
  match (sortTexts shared).head? with
  | none => return ()
  | some name =>
    throw (.duplicateDisplayName name
      (sortTexts ((g.nodes.filter (·.displayName == name)).map NamedNode.id)))

/-- The node that a namespace stands for in the whole workflow; display names go before ids. -/
def target? (g : Graph) (scope : String) : Option NamedNode :=
  (g.nodes.reverse.find? (·.displayName == scope)).or (g.node? scope)

/-! ## References -/

/-- The references of a clause. -/
def clauseReferences (c : Clause) : List String :=
  Template.operandReferences c.inputField ++ (c.value.map Template.references).getD []

mutual

/-- The references in the texts of a value. -/
def valueReferences : Value → List String
  | .text s => Template.references s
  | .array items => itemReferences items
  | .object fields => fieldReferences fields
  | _ => []

def itemReferences : List Value → List String
  | [] => []
  | v :: items => valueReferences v ++ itemReferences items

def fieldReferences : List (String × Value) → List String
  | [] => []
  | (_, v) :: fields => valueReferences v ++ fieldReferences fields

end

/-- A reference and the node that has it. -/
structure Use where
  nodeId : String
  reference : String

/-! ## Nodes -/

/-- What the check of a node finds. -/
structure Findings where
  warnings : List Warning := []
  uses : List Use := []

/-- Findings in a row. -/
def Findings.append (a b : Findings) : Findings :=
  ⟨a.warnings ++ b.warnings, a.uses ++ b.uses⟩

/-- Checks that the handles of the edges that leave a condition name its paths. -/
def checkHandles (g : Graph) (nodeId : String) (c : Condition) : Except WorkflowError Unit :=
  let unknown := (g.outgoing nodeId).findSome? fun e ↦
    e.sourceHandle.filter fun handle ↦ !c.paths.any (·.id == handle)
  match unknown with
  | some handle => .error (.unknownBranchHandle nodeId handle)
  | none => .ok ()

/-- Checks a guarded path of a condition. -/
def checkPath (nodeId : String) (p : Path) : Except WorkflowError Findings := do
  p.clauses.forM checkStaticOperand
  return {
    warnings := if p.clauses.isEmpty then [.alwaysMatches p.id nodeId] else []
    uses := (p.clauses.flatMap clauseReferences).map fun reference ↦ ⟨nodeId, reference⟩ }

def checkNode (g : Graph) (n : NamedNode) : Except WorkflowError Findings :=
  if n.spec.isCondition then
    match Condition.ofFields n.id n.spec.config with
    | .error e => .error (.condition e)
    | .ok c => do
      checkHandles g n.id c
      let findings ← c.guarded.mapM (checkPath n.id)
      return findings.foldl Findings.append {}
  else
    .ok { uses := (fieldReferences n.spec.config).map fun reference ↦ ⟨n.id, reference⟩ }

/-! ## Uses -/

/-- The node that a reference needs, if it is one of the workflow. -/
def Use.target? (g : Graph) (use : Use) : Option NamedNode :=
  let scope := (Reference.split use.reference).scope
  if Reference.isReserved scope then none else Validation.target? g scope

/-- The warnings about a reference. -/
def Use.warnings (g : Graph) (schemas : Schemas) (use : Use) : List Warning :=
  let r := Reference.split use.reference
  if Reference.isReserved r.scope then []
  else
    match Validation.target? g r.scope with
    | none => [.unknownNamespace use.nodeId r.scope]
    | some n =>
      -- A schema knows the first key only; what lies deeper is not checked.
      let field := (r.field.pieces '.').headD ""
      let known :=
        match schemas.fieldsFor? n.spec with
        | some fields => field.isEmpty || fields.contains field
        | none => true
      let isAbove := n.id == use.nodeId || (g.ancestors use.nodeId).any (·.id == n.id)
      (if known then [] else [.unknownField use.nodeId use.reference r.scope field]) ++
        if isAbove then [] else [.notAbove use.nodeId r.scope]

/-- The pairs of a node that is referred to and a node that refers to it. -/
def dependencies (g : Graph) (uses : List Use) : List (String × String) :=
  uses.filterMap fun use ↦ (use.target? g).map fun n ↦ (n.id, use.nodeId)

/-- The pairs of nodes of which one needs the other: the ends of edges, and what else depends on a
node. -/
def connections (g : Graph) (dependencies : List (String × String)) : List (String × String) :=
  (Graph.ends g.edges ++ dependencies).filter fun e ↦ e.1 ∈ g.order ∧ e.2 ∈ g.order

/-- Checks that edges and references together have no cycle. -/
def checkReferenceCycles (g : Graph) (dependencies : List (String × String)) :
    Except WorkflowError Unit :=
  match Digraph.findCycle? g.order (connections g dependencies) with
  | some ids => .error (.referenceCycle (sortTexts ids))
  | none => .ok ()

end Validation

open Validation in
/-- Checks a graph and gives the warnings. -/
def Graph.validate (g : Graph) (schemas : Schemas) : Except WorkflowError (List Warning) := do
  checkDisplayNames g
  let findings := (← g.nodes.mapM (checkNode g)).foldl Findings.append {}
  checkReferenceCycles g (dependencies g findings.uses)
  return findings.warnings ++ findings.uses.flatMap (·.warnings g schemas)

end FlowRouting
