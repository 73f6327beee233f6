import FlowRouting.Digraph.Basic

/-!
# Components and cycles

Two nodes belong to the same component if each of them can be reached from the other. One
depth-first search finds all components: a node that was entered waits until its component is
complete. Nodes wait in the order in which they were entered, so an edge to a node that is still
waiting leads back to its place in this order, and the search keeps the lowest place that it was led
back to. If it was led nowhere below the place of a node until it leaves this node, then the node
and those that wait behind it are a component.

A cycle runs within a component, which has several nodes or an edge from its only node to itself.
The search follows the edges of a node from the last one to the first.
-/

namespace FlowRouting.Digraph

variable {α : Type} [DecidableEq α]

/-- How far a search for components has come. -/
structure ComponentSearch (α : Type) where
  /-- The nodes whose component is not complete; the one entered last comes last. -/
  waiting : List α := []
  /-- The lowest place among the waiting nodes that an edge was found to lead back to. -/
  low : Nat := 0
  /-- The complete components; the one completed first comes first. -/
  components : List (List α) := []

namespace ComponentSearch

/-- The nodes of the complete components. -/
def completed (s : ComponentSearch α) : List α :=
  s.components.flatten

/-- Enters a node. So far nothing leads back below its place. -/
def enter (s : ComponentSearch α) (x : α) : ComponentSearch α :=
  { s with waiting := s.waiting ++ [x], low := s.waiting.length }

/-- Leaves the node that was entered at `s`, after the search went on to `t`. If it was led back
below the place of the node, the node has to wait for the one at that lower place. -/
def leave (s t : ComponentSearch α) : ComponentSearch α :=
  let place := s.waiting.length
  -- The node stays among the waiting ones, with all that wait behind it.
  if t.low < place then { t with low := min s.low t.low }
  else
    { waiting := t.waiting.take place
      low := s.low
      components := t.components ++ [t.waiting.drop place] }

/-- Searches from a node on, unless it was entered before. The fuel bounds the depth; the number of
nodes is enough. -/
def explore (next : α → List α) : Nat → ComponentSearch α → α → ComponentSearch α
  | 0, s, _ => s
  | fuel + 1, s, x =>
    if x ∈ s.completed then s
    else if x ∈ s.waiting then { s with low := min s.low (s.waiting.idxOf x) }
    else s.leave ((next x).foldl (explore next fuel) (s.enter x))

end ComponentSearch

/-- The components of a graph, in the order in which they are complete. -/
def components (nodes : List α) (edges : List (α × α)) : List (List α) :=
  (nodes.foldl (ComponentSearch.explore (successors edges) (nodes.length + 1)) {}).components

/-- Whether a cycle runs within a component. -/
def isCyclic (edges : List (α × α)) : List α → Bool
  | [x] => (x, x) ∈ edges
  | component => 1 < component.length

/-- The nodes of a component in which a cycle runs, if there is one. -/
def findCycle? (nodes : List α) (edges : List (α × α)) : Option (List α) :=
  (components nodes edges.eraseDups.reverse).find? (isCyclic edges)

end FlowRouting.Digraph
