import FlowRouting.Unicode.CaseFolding
import FlowRouting.Unicode.Property

/-!
# Regular expressions

A regular expression is built from literal texts, from sets of characters, and from assertions
about a place between characters. Sequences and choices have two sides, of which the second goes on
with the parts or branches behind the first.

Expressions are kept in a simplified form, which the functions named for the compound expressions
make: a sequence has no empty part and no two literal texts side by side, a choice has no choice as
a branch, and a set has more or less than one member.
-/

namespace FlowRouting

/-! ## Sets of characters -/

namespace CharSet

/-- The decimal digits of all scripts. -/
def decimalDigit : CharSet :=
  .ofCategories [.decimalNumber]

/-- The blanks of all scripts. -/
def blank : CharSet :=
  (Unicode.property? "whitespace").getD .empty

/-- The word characters of all scripts. -/
def word : CharSet :=
  (Unicode.alphabetic.union (.ofTable "200c-200d")).union
    (.ofCategories
      [.nonspacingMark, .spacingMark, .enclosingMark, .decimalNumber, .connectorPunctuation])

def digitAscii : CharSet :=
  range '0' '9'

def blankAscii : CharSet :=
  (range '\t' '\r').union (single ' ')

def letterAscii : CharSet :=
  (range 'A' 'Z').union (range 'a' 'z')

def wordAscii : CharSet :=
  (letterAscii.union digitAscii).union (single '_')

end CharSet

/-! ## Assertions -/

/-- How the word characters on the two sides of a place differ. -/
inductive WordEdge where
  | boundary
  | inside
  | start
  | finish
  | startHalf
  | finishHalf
deriving DecidableEq, Repr

/-- What holds of a place in a text. -/
inductive Assertion where
  | textStart
  | textEnd
  /-- The start of a line; lines may also end with a carriage return. -/
  | lineStart (crlf : Bool)
  /-- The end of a line; lines may also end with a carriage return. -/
  | lineEnd (crlf : Bool)
  /-- The word characters are those of all scripts, or those of ASCII. -/
  | word (unicode : Bool) (edge : WordEdge)
deriving DecidableEq, Repr

/-- Whether an edge is between a character before and a character behind. -/
def WordEdge.holds (edge : WordEdge) (before behind : Bool) : Bool :=
  match edge with
  | .boundary => before != behind
  | .inside => before == behind
  | .start => !before && behind
  | .finish => before && !behind
  | .startHalf => !before
  | .finishHalf => !behind

/-- Whether an assertion holds between a character before and a character behind, either of which
is missing at an end of the text. -/
def Assertion.holds (a : Assertion) (before behind : Option Char) : Bool :=
  match a with
  | .textStart => before.isNone
  | .textEnd => behind.isNone
  | .lineStart crlf =>
    before.isNone || before == some '\n' ||
      (crlf && before == some '\r' && behind != some '\n')
  | .lineEnd crlf =>
    behind.isNone || (behind == some '\n' && !(crlf && before == some '\r')) ||
      (crlf && behind == some '\r')
  | .word unicode edge =>
    let isWord (c : Option Char) :=
      c.any (if unicode then CharSet.word else CharSet.wordAscii).contains
    edge.holds (isWord before) (isWord behind)

/-! ## Expressions -/

/-- A regular expression. -/
inductive Regex where
  | empty
  | literal (chars : List Char)
  /-- A character of a set. -/
  | oneOf (chars : CharSet)
  | assertion (a : Assertion)
  | sequence (r s : Regex)
  | choice (r s : Regex)
  /-- At least `min` times, and at most `max` times if that is given. -/
  | times (r : Regex) (min : Nat) (max : Option Nat) (isLazy : Bool)
  /-- An expression whose match is remembered under a number. -/
  | captured (number : Nat) (r : Regex)
deriving DecidableEq, Repr

namespace Regex

/-- Whether an expression matches nothing but places between characters. -/
def isHollow : Regex → Bool
  | .empty | .assertion _ => true
  | .literal _ | .oneOf _ => false
  | .sequence r s | .choice r s => r.isHollow && s.isHollow
  | .times r _ _ _ | .captured _ r => r.isHollow

/-- A character of a set. -/
def ofSet (chars : CharSet) : Regex :=
  match chars.single? with
  | some c => .literal [c]
  | none => .oneOf chars

/-! ## Sequences -/

/-- The parts of an expression that follow each other. -/
def parts : Regex → List Regex
  | .empty => []
  | .sequence r s => r :: s.parts
  | r => [r]

/-- The parts with literal texts side by side put together. -/
def joinLiterals : List Regex → List Regex
  | [] => []
  | .literal cs :: rs =>
    match joinLiterals rs with
    | .literal ds :: rs => .literal (cs ++ ds) :: rs
    | rs => .literal cs :: rs
  | r :: rs => r :: joinLiterals rs

/-- The expression with some parts. -/
def ofParts : List Regex → Regex
  | [] => .empty
  | [r] => r
  | r :: rs => .sequence r (ofParts rs)

def concat (rs : List Regex) : Regex :=
  ofParts (joinLiterals (rs.flatMap parts))

/-! ## Choices -/

def alternatives : Regex → List Regex
  | .choice r s => r :: s.alternatives
  | r => [r]

/-- The expression with some branches. Without any, it is a set that has no member. -/
def ofAlternatives : List Regex → Regex
  | [] => .oneOf .empty
  | [r] => r
  | r :: rs => .choice r (ofAlternatives rs)

/-- The set of the only character of an expression. -/
def charSet? : Regex → Option CharSet
  | .literal [c] => some (.single c)
  | _ => none

/-- The set of an expression that is one. -/
def set? : Regex → Option CharSet
  | .oneOf chars => some chars
  | _ => none

/-- The union of the sets of all branches, if there are two branches at least and every one of them
has a set. -/
def unionOf? (set? : Regex → Option CharSet) (rs : List Regex) : Option CharSet :=
  if rs.length < 2 then none
  else (rs.mapM set?).map fun sets ↦ sets.foldl CharSet.union .empty

/-- The choice between branches. Characters are put together into a set, and so are sets. -/
def choiceBetween (rs : List Regex) : Regex :=
  match unionOf? charSet? rs <|> unionOf? set? rs with
  | some chars => ofSet chars
  | none => ofAlternatives rs

/-- The parts with which both of two sequences begin. -/
def commonStart : List Regex → List Regex → List Regex
  | r :: rs, s :: ss => if r = s then r :: commonStart rs ss else []
  | _, _ => []

/-- The parts with which all branches begin, if every branch is a sequence. -/
def commonPrefix (rs : List Regex) : List Regex :=
  match rs with
  | .sequence r s :: others =>
    others.foldl
      (fun common branch ↦
        match branch with
        | .sequence r s => commonStart common (r :: s.parts)
        | _ => [])
      (r :: s.parts)
  | _ => []

/-- The choice between expressions. What all branches begin with is taken out of the choice; since
it is as long as possible, the rest has no common beginning again. -/
def alternation (rs : List Regex) : Regex :=
  let rs := rs.flatMap alternatives
  match commonPrefix rs with
  | [] => choiceBetween rs
  | common =>
    if rs.length < 2 then choiceBetween rs
    else
      let rests := rs.map fun branch ↦ ofParts (branch.parts.drop common.length)
      concat (common ++ [choiceBetween (rests.flatMap alternatives)])

/-! ## Repetitions -/

/-- The repetition of an expression. What matches only places is repeated once at most. -/
def repetition (r : Regex) (min : Nat) (max : Option Nat) (isLazy : Bool) : Regex :=
  let cap (n : Nat) : Nat := if r.isHollow then Nat.min n 1 else n
  let min := cap min
  let max := if r.isHollow then some (cap (max.getD 1)) else max
  if min = 0 ∧ max = some 0 then .empty
  else if min = 1 ∧ max = some 1 then r
  else .times r min max isLazy

end Regex

end FlowRouting
