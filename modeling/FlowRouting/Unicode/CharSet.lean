import FlowRouting.Text.Digits

/-!
# Sets of characters

A set of characters is given by its bounds: the code points at which membership changes, in
increasing order. A code point below the first bound is outside of the set, one from the first
bound on is inside, from the second bound on outside again, and so on. The complement is then one
bound more or less at zero, and two sets are combined in one pass along their bounds.

Surrogates are no characters, so no bound is one of them: a set that ends or begins within that gap
has its bound at the first character behind it. With this every set has one list of bounds.
-/

namespace FlowRouting

/-- A set of characters. -/
structure CharSet where
  /-- The code points at which membership changes, in increasing order. -/
  bounds : List Nat
deriving DecidableEq, Repr

namespace CharSet

/-! ## Membership -/

/-- Whether an odd number of bounds, given in increasing order, is at most `n`. -/
def inside : List Nat → Nat → Bool
  | [], _ => false
  | bound :: bounds, n => bound ≤ n && !inside bounds n

/-- Whether a character is in the set. -/
def contains (s : CharSet) (c : Char) : Bool :=
  inside s.bounds c.toNat

/-- The code point of the first character behind one. -/
def next (n : Nat) : Nat :=
  if n = 0xd7ff then 0xe000 else n + 1

/-! ## Ranges -/

def empty : CharSet :=
  ⟨[]⟩

def all : CharSet :=
  ⟨[0]⟩

/-- The bounds of a range of code points; no bound is behind the last character of all. -/
def rangeBounds (first last : Nat) : List Nat :=
  if last = 0x10ffff then [first] else [first, next last]

/-- The characters from one to another. -/
def range (first last : Char) : CharSet :=
  ⟨rangeBounds first.toNat last.toNat⟩

def single (c : Char) : CharSet :=
  range c c

/-- The code points of the first and the last characters of the ranges that the bounds make, cut
where the gap of the surrogates is. -/
def rangesOf : List Nat → List (Nat × Nat)
  | [] => []
  | [first] => pieces first 0x10ffff
  | first :: stop :: bounds => pieces first (stop - 1) ++ rangesOf bounds
where
  /-- The characters between two code points. -/
  pieces (first last : Nat) : List (Nat × Nat) :=
    if first < 0xd800 ∧ 0xd800 ≤ last then
      if 0xe000 ≤ last then [(first, 0xd7ff), (0xe000, last)] else [(first, 0xd7ff)]
    else [(first, last)]

def ranges (s : CharSet) : List (Nat × Nat) :=
  rangesOf s.bounds

/-- The only character of a set that has no others. -/
def single? (s : CharSet) : Option Char :=
  match s.ranges with
  | [(first, last)] => if first = last then some (Char.ofNat first) else none
  | _ => none

/-! ## Combination -/

/-- The bounds, with one more where membership changes. -/
def change (bound : Nat) (before behind : Bool) (bounds : List Nat) : List Nat :=
  if before = behind then bounds else bound :: bounds

/-- Combines the bounds of two sets, given whether what comes before them is in the sets. -/
def combineBounds (op : Bool → Bool → Bool) : List Nat → Bool → Bool → List Nat → List Nat
  | [], s, t, ys => rest s t ys
  | x :: xs, s, t, ys => go x s (combineBounds op xs) t ys
where
  /-- Combines the bounds of the second set with the end of the first. -/
  rest (s t : Bool) : List Nat → List Nat
    | [] => []
    | y :: ys => change y (op s t) (op s !t) (rest s (!t) ys)
  /-- Merges a bound of the first set, of which the combination of the bounds behind it is at
  hand, into those of the second. -/
  go (x : Nat) (s : Bool) (behind : Bool → Bool → List Nat → List Nat) (t : Bool) :
      List Nat → List Nat
    | [] => change x (op s t) (op (!s) t) (behind (!s) t [])
    | y :: ys =>
      if x < y then change x (op s t) (op (!s) t) (behind (!s) t (y :: ys))
      else if x = y then change x (op s t) (op (!s) !t) (behind (!s) (!t) ys)
      else change y (op s t) (op s !t) (go x s behind (!t) ys)

/-- The characters whose membership in two sets passes a test, which no character outside of both
may pass. -/
def combine (op : Bool → Bool → Bool) (s t : CharSet) : CharSet :=
  ⟨combineBounds op s.bounds false false t.bounds⟩

/-- The characters of one of two sets. -/
def union : CharSet → CharSet → CharSet :=
  combine or

/-- The characters of both sets. -/
def inter : CharSet → CharSet → CharSet :=
  combine and

/-- The characters of the first set that are not in the second. -/
def diff : CharSet → CharSet → CharSet :=
  combine fun a b ↦ a && !b

/-- The characters of exactly one of the sets. -/
def symmDiff : CharSet → CharSet → CharSet :=
  combine xor

/-- The characters that are not in the set. -/
def compl (s : CharSet) : CharSet :=
  match s.bounds with
  | 0 :: bounds => ⟨bounds⟩
  | bounds => ⟨0 :: bounds⟩

@[simp] theorem contains_empty (c : Char) : empty.contains c = false := rfl

@[simp] theorem contains_all (c : Char) : all.contains c = true := by
  simp [all, contains, inside]

@[simp] theorem contains_compl (s : CharSet) (c : Char) : s.compl.contains c = !s.contains c := by
  simp only [compl]
  split
  · next h => simp [contains, h, inside]
  · simp [contains, inside]

/-! ## Tables -/

/-- The set of a table: ranges in hexadecimal, such as `41-5a 61-7a aa`, in increasing order and
apart from each other. -/
def ofTable (table : String) : CharSet :=
  ⟨(Text.words table).flatMap fun word ↦
    match (word.toList.splitOn '-').map Text.hexNumber with
    | [first, last] => rangeBounds first last
    | [one] => rangeBounds one one
    | _ => []⟩

/-- The set of the characters with some code points, which are in increasing order. -/
def ofSorted : List Nat → CharSet
  | [] => ⟨[]⟩
  | n :: ns => ⟨go n n ns⟩
where
  /-- The bounds of a range that is known up to `last`, and of the code points behind it. -/
  go (first last : Nat) : List Nat → List Nat
    | [] => rangeBounds first last
    | n :: ns => if n ≤ next last then go first n ns else rangeBounds first last ++ go n n ns

end CharSet

end FlowRouting
