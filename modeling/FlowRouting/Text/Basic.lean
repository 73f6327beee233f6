/-!
# Text as lists of characters

References, templates, list operands and dates are all cut out of larger texts by the same few
operations: trimming blanks, splitting at a separator, looking for a part. They are defined on
`List Char`, where they are plain list recursions, and lifted to `String` at the boundary.

A *blank* is a character with the property `White_Space`; the standard lists 25 of them.
-/

namespace FlowRouting

/-- The characters with the property `White_Space`. -/
def isBlank (c : Char) : Bool :=
  let n := c.toNat
  (9 ≤ n && n ≤ 13) || n == 0x20 || n == 0x85 || n == 0xa0 || n == 0x1680 ||
    (0x2000 ≤ n && n ≤ 0x200a) || n == 0x2028 || n == 0x2029 || n == 0x202f || n == 0x205f ||
    n == 0x3000

/-- Core's notion of white space is part of this one. -/
theorem isBlank_of_isWhitespace {c : Char} (h : c.isWhitespace = true) : isBlank c = true := by
  simp only [Char.isWhitespace, Bool.or_eq_true, decide_eq_true_eq] at h
  rcases h with ((rfl | rfl) | rfl) | rfl <;> decide

namespace Text

/-! ## Trimming -/

/-- The text without the blanks it starts with. -/
def trimLeft (cs : List Char) : List Char :=
  cs.dropWhile isBlank

/-- The text without the blanks it ends with. -/
def trimRight (cs : List Char) : List Char :=
  (cs.reverse.dropWhile isBlank).reverse

/-- The text without the blanks around it. -/
def trim (cs : List Char) : List Char :=
  trimRight (trimLeft cs)

@[simp] theorem trim_nil : trim [] = [] := rfl

/-! ## Splitting -/

/-- The text before the first `sep` and the text after it. -/
def splitOnce (sep : Char) : List Char → Option (List Char × List Char)
  | [] => none
  | c :: cs => if c = sep then some ([], cs) else (splitOnce sep cs).map fun p ↦ (c :: p.1, p.2)

theorem eq_append_of_splitOnce {sep : Char} {cs a b : List Char}
    (h : splitOnce sep cs = some (a, b)) : cs = a ++ sep :: b ∧ sep ∉ a := by
  induction cs generalizing a with
  | nil => simp [splitOnce] at h
  | cons c cs ih =>
    rw [splitOnce] at h
    split at h
    · next hc =>
      cases h
      simp [hc]
    · next hc =>
      obtain ⟨⟨a', b'⟩, hp, he⟩ := Option.map_eq_some_iff.1 h
      cases he
      obtain ⟨rfl, hn⟩ := ih hp
      simp [hn, Ne.symm hc]

theorem splitOnce_eq_none_iff {sep : Char} {cs : List Char} :
    splitOnce sep cs = none ↔ sep ∉ cs := by
  induction cs with
  | nil => simp [splitOnce]
  | cons c cs ih =>
    rw [splitOnce]
    split
    · next hc => simp [hc]
    · next hc => simp [ih, Ne.symm hc]

/-- The pieces between the separators; there is always one more piece than separators. -/
def split (sep : Char) : List Char → List (List Char)
  | [] => [[]]
  | c :: cs =>
    if c = sep then [] :: split sep cs
    else
      match split sep cs with
      | [] => [[c]]
      | piece :: pieces => (c :: piece) :: pieces

theorem split_ne_nil (sep : Char) (cs : List Char) : split sep cs ≠ [] := by
  cases cs with
  | nil => simp [split]
  | cons c cs =>
    rw [split]
    split
    · simp
    · split <;> simp

/-- The parts between blanks. -/
def words (s : String) : List String :=
  ((s.toList.splitOnP isBlank).filter (!·.isEmpty)).map String.ofList

/-! ## Looking for a part -/

/-- Whether the text has `part` as a contiguous part; the empty part is in every text. -/
def hasPart (part : List Char) : List Char → Bool
  | [] => part.isEmpty
  | c :: cs => part.isPrefixOf (c :: cs) || hasPart part cs

theorem hasPart_iff {part cs : List Char} : hasPart part cs = true ↔ part <:+: cs := by
  induction cs with
  | nil => simp [hasPart]
  | cons c cs ih => simp [hasPart, ih, List.infix_cons_iff]

/-- The ASCII capitals of the text as small letters, and every other character as it is. -/
def toLowerAscii (cs : List Char) : List Char :=
  cs.map Char.toLower

end Text

end FlowRouting

namespace String

open FlowRouting

/-- The text without the blanks around it. -/
def trimBlanks (s : String) : String :=
  String.ofList (Text.trim s.toList)

/-- Whether the text holds nothing but blanks. -/
def isBlank (s : String) : Bool :=
  (Text.trim s.toList).isEmpty

/-- Whether the text has `part` as a contiguous part. -/
def hasPart (s part : String) : Bool :=
  Text.hasPart part.toList s.toList

def pieces (s : String) (sep : Char) : List String :=
  (Text.split sep s.toList).map String.ofList

end String
