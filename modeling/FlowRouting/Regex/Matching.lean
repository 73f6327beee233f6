import FlowRouting.Regex.Basic

/-!
# Matching

An expression is read as a function on sets of places: from the places where a match may begin to
the places where it may end. No order among matches is kept, since only their existence is asked
for, and so no expression takes more than polynomial time.

A set of places is a list in strictly increasing order.
-/

namespace FlowRouting

namespace Places

/-- The places of either set. -/
def union : List Nat → List Nat → List Nat
  | [], ys => ys
  | x :: xs, ys => go x xs (union xs) ys
where
  /-- Merges a first set, of which the union with its tail is at hand, into a second one. -/
  go (x : Nat) (xs : List Nat) (withTail : List Nat → List Nat) : List Nat → List Nat
    | [] => x :: xs
    | y :: ys =>
      if x < y then x :: withTail (y :: ys)
      else if x = y then x :: withTail ys
      else y :: go x xs withTail ys

/-- The places of the first set that are not in the second. -/
def diff : List Nat → List Nat → List Nat
  | [], _ => []
  | x :: xs, ys =>
    let ys := ys.dropWhile (· < x)
    match ys with
    | y :: _ => if x = y then diff xs ys else x :: diff xs ys
    | [] => x :: xs

/-- The places that lead on for a number of rounds. -/
def iterate (step : List Nat → List Nat) : Nat → List Nat → List Nat
  | 0, places => places
  | n + 1, places => if places.isEmpty then [] else iterate step n (step places)

/-- The places within a number of rounds of the frontier, which are taken up into `seen`. -/
def closure (step : List Nat → List Nat) : Nat → List Nat → List Nat → List Nat
  | 0, seen, _ => seen
  | n + 1, seen, frontier =>
    let fresh := diff (step frontier) seen
    if fresh.isEmpty then seen else closure step n (union seen fresh) fresh

end Places

namespace Regex

/-- The places where a match may end that begins at one of the given places.

More rounds than there are places change nothing: a longer way through the text must stay on one
place, and may then stay there as often as it likes. -/
def ends (text : Array Char) : Regex → List Nat → List Nat
  | .empty, places => places
  | .literal cs, places =>
    cs.foldl
      (fun places c ↦
        places.filterMap fun i ↦ if text[i]? = some c then some (i + 1) else none)
      places
  | .oneOf set, places =>
    places.filterMap fun i ↦ if (text[i]?).any set.contains then some (i + 1) else none
  | .assertion a, places =>
    places.filter fun i ↦ a.holds (if i = 0 then none else text[i - 1]?) text[i]?
  | .sequence r s, places => s.ends text (r.ends text places)
  | .choice r s, places => Places.union (r.ends text places) (s.ends text places)
  | .times r min max _, places =>
    let rounds := text.size + 1
    let required := Places.iterate (r.ends text) (Nat.min min rounds) places
    let further :=
      match max with
      | none => rounds
      | some max => Nat.min (max - min) rounds
    Places.closure (r.ends text) further required required
  | .captured _ r, places => r.ends text places

/-- Whether some part of the text matches. -/
def isMatch (r : Regex) (s : String) : Bool :=
  let text := s.toList.toArray
  !(r.ends text (List.range (text.size + 1))).isEmpty

end Regex

end FlowRouting
