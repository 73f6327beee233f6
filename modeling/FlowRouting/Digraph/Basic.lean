/-!
# Directed graphs

A directed graph is given by its edges, as a list of pairs. Depth-first search walks from a node to
the ones its edges lead to, in the order of the edges, and lists the nodes in the order in which it
leaves them. Read backwards, that order has every edge leading forward, unless there is a cycle; so
the order is computed first and then checked, edge by edge.
-/

namespace FlowRouting.Digraph

variable {α : Type} [DecidableEq α]

/-- The nodes that the edges from a node lead to, in the order of the edges. -/
def successors (edges : List (α × α)) (x : α) : List α :=
  edges.filterMap fun e ↦ if e.1 = x then some e.2 else none

def reversed (edges : List (α × α)) : List (α × α) :=
  edges.map Prod.swap

/-- There is a way of one or more edges from a node to another. -/
inductive Reaches (edges : List (α × α)) : α → α → Prop where
  | edge {x y : α} (h : (x, y) ∈ edges) : Reaches edges x y
  | step {x y z : α} (h : (x, y) ∈ edges) (rest : Reaches edges y z) : Reaches edges x z

/-! ## Depth-first search -/

/-- How far a search has come. -/
structure Search (α : Type) where
  /-- The nodes that were entered. -/
  seen : List α := []
  /-- The nodes that were left; the one left last comes first. -/
  left : List α := []

/-- Searches from a node on, unless it was entered before. The fuel bounds the depth; the number of
nodes is enough. -/
def visit (next : α → List α) : Nat → Search α → α → Search α
  | 0, s, _ => s
  | fuel + 1, s, x =>
    if x ∈ s.seen then s
    else
      let inner := (next x).foldl (visit next fuel) { s with seen := x :: s.seen }
      { inner with left := x :: inner.left }

/-- Searches from each of several nodes in turn. -/
def search (next : α → List α) (fuel : Nat) (starts : List α) : Search α :=
  starts.foldl (visit next fuel) {}

/-- The nodes that can be reached from a node by one or more edges. -/
def reachable (edges : List (α × α)) (x : α) : List α :=
  (search (successors edges) (edges.length + 1) (successors edges x)).seen

/-! ## Topological order -/

/-- Whether every edge leads from a node to one that comes later. -/
def IsForward (order : List α) (edges : List (α × α)) : Prop :=
  ∀ e ∈ edges, order.idxOf e.1 < order.idxOf e.2

instance (order : List α) (edges : List (α × α)) : Decidable (IsForward order edges) :=
  inferInstanceAs (Decidable (∀ e ∈ edges, _))

/-- The nodes in an order in which every edge leads forward, if there is one. -/
def topologicalOrder? (nodes : List α) (edges : List (α × α)) : Option (List α) :=
  let order := (search (successors edges) (nodes.length + 1) nodes).left
  if IsForward order edges then some order else none

end FlowRouting.Digraph
