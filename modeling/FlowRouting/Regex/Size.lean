import Std.Data.HashMap
import FlowRouting.Regex.Basic
import FlowRouting.Regex.Encoding

/-!
# Sizes of expressions

A pattern is refused if the automata for it take up too much. There are two of them, one that reads
the UTF-8 bytes of a text forward, and one that reads them backward from the end of a match. A state
takes 32 bytes; an edge on which a byte is read takes 8 in a state that has several, and an edge
without a byte takes 4. Repetitions are written out, one copy after the other.

States are numbered in the order in which they are laid out. The numbers matter in one place: a set
with characters beyond ASCII shares equal states among its members, and remembers only as many of
them as there are slots in a table, in which a state is found by a hash of the states that it leads
to.
-/

namespace FlowRouting.Regex

/-! ## Widths and ends -/

/-- The least number of characters that an expression takes up. There is none if the expression
needs a character of a set that has no member. -/
def leastWidth : Regex → Option Nat
  | .empty | .assertion _ => some 0
  | .literal cs => some cs.length
  | .oneOf chars => if chars.ranges.isEmpty then none else some 1
  | .sequence r s => do return (← r.leastWidth) + (← s.leastWidth)
  | .choice r s => do return Nat.min (← r.leastWidth) (← s.leastWidth)
  | .times r min _ _ => do return (← r.leastWidth) * min
  | .captured _ r => r.leastWidth

/-- Whether an expression can only match at the start of a text, as far as its first parts tell. -/
def isAnchoredAtStart : Regex → Bool
  | .empty | .literal _ | .oneOf _ => false
  | .assertion a => a == .textStart
  | .sequence r s => r.isAnchoredAtStart || (r.isHollow && s.isAnchoredAtStart)
  | .choice r s => r.isAnchoredAtStart && s.isAnchoredAtStart
  | .times r min _ _ => 0 < min && r.isAnchoredAtStart
  | .captured _ r => r.isAnchoredAtStart

/-- Whether an expression can only match at the end of a text, as far as its last parts tell. -/
def isAnchoredAtEnd : Regex → Bool
  | .empty | .literal _ | .oneOf _ => false
  | .assertion a => a == .textEnd
  | .sequence r s => s.isAnchoredAtEnd || (s.isHollow && r.isAnchoredAtEnd)
  | .choice r s => r.isAnchoredAtEnd && s.isAnchoredAtEnd
  | .times r min _ _ => 0 < min && r.isAnchoredAtEnd
  | .captured _ r => r.isAnchoredAtEnd

namespace Size

/-- The greatest size that is allowed. -/
def limit : Nat :=
  10 * 1024 * 1024

/-- The direction in which an automaton reads. -/
inductive Direction where
  | forward
  | backward
deriving DecidableEq

/-! ## Layouts -/

/-- An automaton as far as it has been laid out: the number of its states, and the bytes that their
edges take up. -/
structure Layout where
  states : Nat := 0
  edges : Nat := 0

namespace Layout

/-- The bytes of an automaton. -/
def size (l : Layout) : Nat :=
  32 * l.states + l.edges

def isTooLarge (l : Layout) : Bool :=
  limit < l.size

/-- Adds states with edges that take up a number of bytes. -/
def add (l : Layout) (states edges : Nat) : Layout :=
  ⟨l.states + states, l.edges + edges⟩

/-- Adds a state that leads on in two ways without reading. -/
def addFork (l : Layout) : Layout :=
  l.add 1 8

/-- Takes a step a number of times, or until the automaton is too large. -/
def iterate (step : Layout → Layout) : Nat → Layout → Layout
  | 0, l => l
  | n + 1, l => if l.isTooLarge then l else iterate step n (step l)

end Layout

/-! ## Tables of states -/

/-- The slot for a list of numbers in a table with a number of slots. -/
def slot (slots : UInt64) (numbers : List Nat) : UInt64 :=
  numbers.foldl (fun h n ↦ (h ^^^ n.toUInt64) * 1099511628211) 14695981039346656037 % slots

/-- What a state reads and where it leads to, with its number. -/
structure Entry where
  key : List Nat
  state : Nat

/-- A layout with a table of the states that can be shared. A slot holds the state that was put
there last. -/
structure Sharing where
  layout : Layout
  table : Std.HashMap UInt64 Entry

/-- The state that reads and leads to what a key says: the one in the table if it is there, else a
new one, which takes up its slot. -/
def Sharing.state (slots : UInt64) (key : List Nat) (edges : Nat) (s : Sharing) : Nat × Sharing :=
  let slot := slot slots key
  let found := (s.table[slot]?).filter (·.key == key)
  match found with
  | some entry => (entry.state, s)
  | none =>
    let state := s.layout.states
    (state, ⟨s.layout.add 1 edges, s.table.insert slot ⟨key, state⟩⟩)

/-! ## Sets -/

/-- Lays out the states that read products of byte ranges, and gives the first of them. Products
with the same first range are read together. The number of bytes is bounded. -/
def forwardState (target : Nat) : Nat → List (List ByteRange) → Sharing → Nat × Sharing
  | 0, _, s => (target, s)
  | fuel + 1, products, s =>
    let families := products.splitBy fun p q ↦ p.head? == q.head?
    let (edges, s) := families.foldl
      (fun (edges, s) family ↦
        match family with
        | (range :: rest) :: _ =>
          let (next, s) :=
            if rest.isEmpty then (target, s) else forwardState target fuel (family.map List.tail) s
          ((range, next) :: edges, s)
        | _ => (edges, s))
      (([] : List (ByteRange × Nat)), s)
    s.state 10000 (edges.reverse.flatMap fun (range, next) ↦ [range.1, range.2, next])
      (8 * edges.length)

/-- Lays out a set for reading forward. -/
def forwardSet (products : List (List ByteRange)) (l : Layout) : Layout :=
  (forwardState l.states 4 products ⟨l.add 1 0, ∅⟩).2.layout

/-- Lays out a set for reading backward: one edge for each product leads to its last byte. -/
def backwardSet (products : List (List ByteRange)) (l : Layout) : Layout :=
  let target := l.states + 1
  let start : Sharing := ⟨l.add 2 0, ∅⟩
  (products.foldl
    (fun s product ↦
      let (_, s) := product.foldl
        (fun (next, s) range ↦ s.state 1000 [next, range.1, range.2] 0) (target, s)
      { s with layout := s.layout.add 0 4 })
    start).layout

/-- Lays out a set. Within ASCII all of its ranges are edges of one state. -/
def set (direction : Direction) (chars : CharSet) (l : Layout) : Layout :=
  let ranges := chars.ranges
  if ranges.all fun range ↦ range.2 < 0x80 then l.add 2 (8 * ranges.length)
  else
    let products := Encoding.ofSet chars
    match direction with
    | .forward => forwardSet products l
    | .backward => backwardSet products l

/-! ## Literal texts -/

def literalBytes (cs : List Char) : List Nat :=
  cs.flatMap fun c ↦ Encoding.bytes c.toNat

/-- Cuts words, given in the order in which they are preferred, behind each empty word. Those
before any other word count as one. -/
def segments (words : List (List Nat)) : List (List (List Nat)) :=
  match words.span (·.isEmpty) with
  | ([], words) => words.splitOnP (·.isEmpty)
  | (_, words) => [] :: words.splitOnP (·.isEmpty)

/-- Families of words with the same first byte, without that byte. -/
def families (words : List (List Nat)) : List (List (List Nat)) :=
  let heads := (words.filterMap List.head?).eraseDups
  heads.map fun byte ↦ (words.filter (·.head? == some byte)).map List.tail

/-- Lays out the states that read one of several words byte by byte; the length of words is
bounded. A choice among bytes ends where a word ends, since the words behind it are tried only
after that one. -/
def wordsState : Nat → List (List Nat) → Layout → Layout
  | 0, _, l => l
  | fuel + 1, words, l =>
    let segments := segments words
    let choices := (segments.map families).filter (!·.isEmpty)
    let l := choices.foldl
      (fun l families ↦
        let l := families.foldl
          (fun l family ↦
            if family.all (·.isEmpty) then l else wordsState fuel family l)
          l
        if families.length = 1 then l.add 1 0 else l.add 1 (8 * families.length))
      l
    l.add 1 (4 * (choices.length + (segments.length - 1)))

/-- Lays out a choice between literal texts. -/
def words (direction : Direction) (texts : List (List Char)) (l : Layout) : Layout :=
  let words := texts.map fun cs ↦
    match direction with
    | .forward => literalBytes cs
    | .backward => (literalBytes cs).reverse
  wordsState ((words.map List.length).foldl max 0) words (l.add 1 0)

/-- The literal texts of a choice that has no other branches. -/
def texts? : Regex → Option (List (List Char))
  | .literal cs => some [cs]
  | .choice r s => do return (← texts? r) ++ (← texts? s)
  | _ => none

/-! ## Expressions -/

/-- The place of an expression among the branches of a choice. -/
inductive Place where
  | alone
  /-- The second branch; the two states between which the branches are follow it. -/
  | second
  | later

/-- Puts an expression into its place. -/
def Place.close : Place → Layout → Layout
  | .alone, l => l
  | .second, l => l.add 2 8
  | .later, l => l.add 0 4

/-- Lays out a repetition, given how to lay out what is repeated. -/
def repetition (copy : Layout → Layout) (isWide : Bool) (min : Nat) (max : Option Nat)
    (l : Layout) : Layout :=
  match max with
  | none =>
    if 0 < min then (Layout.iterate copy min l).addFork
    else if isWide then copy l.addFork
    else ((copy l).addFork.addFork).add 1 0
  | some max =>
    if min = 0 ∧ max = 1 then (copy l.addFork).add 1 0
    else
      let required := if min = 0 then l.add 1 0 else Layout.iterate copy min l
      if min = max then required
      else Layout.iterate (fun l ↦ copy l.addFork) (max - min) (required.add 1 0)

/-- Lays out an expression in its place. -/
def regex (direction : Direction) : Regex → Place → Layout → Layout
  | .empty, place, l | .assertion _, place, l => place.close (l.add 1 0)
  | .literal cs, place, l => place.close (l.add (literalBytes cs).length 0)
  | .oneOf chars, place, l => place.close (set direction chars l)
  | .sequence r s, place, l =>
    place.close <|
      match direction with
      | .forward => regex direction s .alone (regex direction r .alone l)
      | .backward => regex direction r .alone (regex direction s .alone l)
  | .choice r s, .alone, l =>
    match texts? (.choice r s) with
    | some texts => words direction texts l
    | none => regex direction s .second (regex direction r .alone l)
  | .choice r s, place, l =>
    regex direction s .later (place.close (regex direction r .alone l))
  | .times r min max _, place, l =>
    place.close <|
      repetition (regex direction r .alone) (r.leastWidth.any (0 < ·)) min max l
  | .captured _ r, place, l =>
    place.close <|
      match direction with
      | .forward => (regex direction r .alone (l.add 1 0)).add 1 0
      | .backward => regex direction r .alone l

/-- Lays out a whole automaton. If a match may begin anywhere, a loop over all bytes comes before
it. Reading forward, the ends of the match are remembered like those of a group. -/
def automaton (direction : Direction) (r : Regex) : Layout :=
  let isAnchored :=
    match direction with
    | .forward => r.isAnchoredAtStart
    | .backward => r.isAnchoredAtEnd
  let start : Layout := if isAnchored then ⟨1, 0⟩ else ⟨3, 16⟩
  match direction with
  | .forward => (regex direction r .alone (start.add 1 0)).add 2 0
  | .backward => (regex direction r .alone start).add 1 0

def isTooLarge (r : Regex) : Bool :=
  (automaton .forward r).isTooLarge || (automaton .backward r).isTooLarge

end Size

end FlowRouting.Regex
