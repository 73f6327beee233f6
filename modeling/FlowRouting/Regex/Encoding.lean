import FlowRouting.Unicode.CharSet

/-!
# Ranges of encoded characters

In UTF-8 a character is a sequence of one to four bytes. The encodings of a range of characters are
the union of few products of byte ranges: the range is cut where the number of bytes changes, and
then so that in each piece the bytes vary independently of each other.
-/

namespace FlowRouting.Regex

/-- The bytes from one to another. -/
abbrev ByteRange := Nat × Nat

namespace Encoding

/-- The last code points that take one, two, three and four bytes. -/
def lastOfLength : List Nat :=
  [0x7f, 0x7ff, 0xffff, 0x10ffff]

/-- Cuts a range of code points behind each of some limits. -/
def cutAt : List Nat → Nat → Nat → List (Nat × Nat)
  | [], _, _ => []
  | limit :: limits, first, last =>
    if last ≤ limit then [(first, last)]
    else if first ≤ limit then (first, limit) :: cutAt limits (limit + 1) last
    else cutAt limits first last

/-- Cuts a range so that it begins and ends with full blocks, for each of some block sizes in
increasing order. A range within one block is left as it is. -/
def cutToBlocks : List Nat → Nat → Nat → List (Nat × Nat)
  | [], first, last => [(first, last)]
  | block :: blocks, first, last =>
    if first / block = last / block then [(first, last)]
    else
      let start := if first % block = 0 then first else (first / block + 1) * block
      let stop := if (last + 1) % block = 0 then last + 1 else last / block * block
      (if first < start then [(first, start - 1)] else []) ++
        (if start < stop then cutToBlocks blocks start (stop - 1) else []) ++
        (if stop ≤ last then [(stop, last)] else [])

def bytes (n : Nat) : List Nat :=
  if n < 0x80 then [n]
  else if n < 0x800 then [0xc0 + n / 0x40, 0x80 + n % 0x40]
  else if n < 0x10000 then [0xe0 + n / 0x1000, 0x80 + n / 0x40 % 0x40, 0x80 + n % 0x40]
  else [0xf0 + n / 0x40000, 0x80 + n / 0x1000 % 0x40, 0x80 + n / 0x40 % 0x40, 0x80 + n % 0x40]

/-- The products of byte ranges that encode the characters between two code points, which are not
on different sides of the surrogates. -/
def ofRange (first last : Nat) : List (List ByteRange) :=
  (cutAt lastOfLength first last).flatMap fun (first, last) ↦
    let pieces :=
      if last < 0x80 then [(first, last)] else cutToBlocks [0x40, 0x1000, 0x40000] first last
    pieces.map fun (first, last) ↦ (bytes first).zip (bytes last)

/-- The products of byte ranges that encode a set, in increasing order. -/
def ofSet (chars : CharSet) : List (List ByteRange) :=
  chars.ranges.flatMap fun (first, last) ↦ ofRange first last

end Encoding

end FlowRouting.Regex
