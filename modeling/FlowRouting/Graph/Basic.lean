import FlowRouting.Digraph.Basic
import FlowRouting.Reference
import FlowRouting.Workflow.Basic
import FlowRouting.Workflow.Error

/-!
# The graph of a workflow

A workflow whose edges join its nodes without a cycle has a graph: its nodes in topological order,
each with the name by which references address it. A node without a name of its own is named after
its type, with the number of earlier nodes of that type.
-/

namespace FlowRouting

/-- A node together with the namespace that references use for it. -/
structure NamedNode where
  spec : NodeSpec
  displayName : String

def NamedNode.id (n : NamedNode) : String :=
  n.spec.id

/-- The nodes of a workflow in topological order, and its edges in the order of their author. -/
structure Graph where
  nodes : List NamedNode
  edges : List Edge

/-- Texts in increasing order. -/
def sortTexts (texts : List String) : List String :=
  texts.mergeSort fun a b ↦ decide (a ≤ b)

/-! ## Names -/

/-- A type as a part of a name: ASCII letters and digits, the letters small, and underscores in
place of all else. -/
def slug (nodeType : String) : String :=
  String.ofList (nodeType.toList.map fun c ↦ if c.isAlphanum then c.toLower else '_')

/-- The name that a node has by its author, if it is not blank. -/
def NodeSpec.explicitName? (spec : NodeSpec) : Option String :=
  (spec.displayName.map String.trimBlanks).filter fun name ↦ !name.isEmpty

/-- The name of a node that comes behind others. -/
def NodeSpec.nameBehind (earlier : List NodeSpec) (spec : NodeSpec) : String :=
  match spec.explicitName? with
  | some name => name
  | none =>
    let ordinal := earlier.countP fun other ↦ other.nodeType == spec.nodeType
    slug spec.nodeType ++ "_" ++ String.ofList (Nat.toDigits 10 ordinal)

/-- The nodes with their names, behind others. -/
def nameNodes (earlier : List NodeSpec) : List NodeSpec → List NamedNode
  | [] => []
  | spec :: specs => ⟨spec, spec.nameBehind earlier⟩ :: nameNodes (earlier ++ [spec]) specs

namespace Graph

/-! ## Building -/

def ends (edges : List Edge) : List (String × String) :=
  edges.map fun e ↦ (e.source, e.target)

/-- The first text that occurs again behind others. -/
def firstRepeated? (before : List String) : List String → Option String
  | [] => none
  | id :: ids => if id ∈ before then some id else firstRepeated? (id :: before) ids

/-- What is wrong with an edge between nodes with these ids. -/
def edgeError? (ids : List String) (e : Edge) : Option WorkflowError :=
  if e.source ∉ ids then some (.nodeNotFound e.source)
  else if e.target ∉ ids then some (.nodeNotFound e.target)
  else if e.source = e.target then some (.selfConnection e.source)
  else none

def build (w : Workflow) : Except WorkflowError Graph := do
  let ids := w.nodes.map NodeSpec.id
  if let some id := firstRepeated? [] ids then throw (.duplicateNodeId id)
  if let some e := w.edges.findSome? (edgeError? ids) then throw e
  match Digraph.topologicalOrder? ids (ends w.edges) with
  | none => throw .cyclicDependency
  | some order =>
    let named := nameNodes [] w.nodes
    return ⟨order.filterMap fun id ↦ named.find? (·.id == id), w.edges⟩

/-! ## Looking around -/

variable (g : Graph)

/-- The ids of the nodes in topological order. -/
def order : List String :=
  g.nodes.map NamedNode.id

def node? (id : String) : Option NamedNode :=
  g.nodes.find? (·.id == id)

def incoming (id : String) : List Edge :=
  g.edges.filter (·.target == id)

def outgoing (id : String) : List Edge :=
  g.edges.filter (·.source == id)

/-- The nodes from which an edge leads to a node, in increasing order. -/
def predecessors (id : String) : List String :=
  sortTexts ((g.incoming id).map Edge.source).eraseDups

/-- The nodes from which some way leads to a node, in topological order. -/
def ancestors (id : String) : List NamedNode :=
  let above := Digraph.reachable (Digraph.reversed (ends g.edges)) id
  g.nodes.filter fun n ↦ n.id ≠ id ∧ n.id ∈ above

end Graph

end FlowRouting
