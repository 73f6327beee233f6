import FlowRouting.Condition.Comparison
import FlowRouting.Template

/-!
# Choosing a path

The guarded paths of a condition are tried in order. The clauses of a path are evaluated until the
outcome is certain, so a clause that cannot be evaluated may never be reached.
-/

namespace FlowRouting

/-- Evaluates a clause: the left side first, then the text to compare with, then the operator. -/
def Clause.evaluate (vars : Variables) (c : Clause) : Except EvalError Bool := do
  let left ← Template.resolveOperand vars c.inputField
  -- A text that is there nonetheless is not rendered, so its references cannot fail.
  if !c.operator.requiresValue then c.operator.apply left ""
  else
    match c.value with
    | none => throw (c.operator.refuse "" .missingValue)
    | some raw => c.operator.apply left (← Template.interpolate vars raw)

/-- A clause that could not be evaluated. -/
structure ClauseFailure where
  clauseId : String
  error : EvalError
deriving DecidableEq

/-- The outcome that makes further clauses needless. -/
def LogicalOperator.decisive : LogicalOperator → Bool
  | .and => false
  | .or => true

namespace Path

/-- Combines clauses up to the first decisive one; `decisive` is an outcome that decides. -/
def combine (vars : Variables) (decisive : Bool) : List Clause → Except ClauseFailure Bool
  | [] => .ok !decisive
  | c :: clauses =>
    match c.evaluate vars with
    | .error error => .error ⟨c.id, error⟩
    | .ok outcome => if outcome = decisive then .ok decisive else combine vars decisive clauses

/-- Whether the clauses of a path hold; without clauses they do. -/
def holds (vars : Variables) (p : Path) : Except ClauseFailure Bool :=
  if p.clauses.isEmpty then .ok true
  else combine vars p.logicalOperator.decisive p.clauses

/-- Whether the clauses of a path hold, or why that cannot be told. -/
def evaluate (vars : Variables) (p : Path) : Except EvalError Bool :=
  (p.holds vars).mapError ClauseFailure.error

def select (p : Path) (matched : Bool) (index : Nat) : Selection :=
  ⟨p.id, p.name, matched, index⟩

end Path

/-- A path that was passed over in lenient mode. -/
structure Downgrade where
  path : Path
  failure : ClauseFailure
deriving DecidableEq

/-- What choosing a path comes to: the paths passed over, in order, and the outcome. -/
structure Routing where
  downgrades : List Downgrade
  outcome : Except EvalError Selection

namespace Routing

/-- Tries guarded paths from a place on; the fallback is taken without looking at its clauses. -/
def tryPaths (vars : Variables) (mode : RoutingMode) (fallback : Path) :
    Nat → List Path → Routing
  | index, [] => ⟨[], .ok (fallback.select false index)⟩
  | index, p :: paths =>
    match p.holds vars, mode with
    | .ok true, _ => ⟨[], .ok (p.select true index)⟩
    | .ok false, _ => tryPaths vars mode fallback (index + 1) paths
    | .error failure, .strict => ⟨[], .error failure.error⟩
    | .error failure, .lenient =>
      let rest := tryPaths vars mode fallback (index + 1) paths
      ⟨⟨p, failure⟩ :: rest.downgrades, rest.outcome⟩

/-- Chooses one of several paths, of which the last is the fallback. -/
def choose (vars : Variables) (mode : RoutingMode) (paths : List Path) : Routing :=
  match paths.getLast? with
  | none => ⟨[], .error .noPaths⟩
  | some fallback => tryPaths vars mode fallback 0 paths.dropLast

end Routing

end FlowRouting
