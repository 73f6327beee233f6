import FlowRouting.Json.Decoding

/-!
# Where a text fails

The place of a mismatch is found from outside: it is where the shortest front part of the text ends
that fails in the same way. A text that ends too early fails at its end.
-/

namespace FlowRouting.Json

/-- A place in a text: lines count from one, columns are bytes from the start of the line. -/
structure Position where
  line : Nat
  column : Nat
deriving DecidableEq, Repr

/-- The place behind a text. -/
def Position.behind (cs : List Char) : Position :=
  let last := (cs.reverse.takeWhile (· != '\n')).map fun c ↦ c.utf8Size
  ⟨cs.count '\n' + 1, last.foldr (· + ·) 0⟩

/-- Whether a text fails because it ends. -/
def Mismatch.isEnd : Mismatch → Bool
  | .notJson fault =>
    [Fault.endInValue, .endInList, .endInObject, .endInString].contains fault
  | _ => false

/-- The least length between two bounds that passes a test, found by halving. -/
def leastLength (test : Nat → Bool) : Nat → Nat → Nat → Nat
  | 0, _, high => high
  | fuel + 1, low, high =>
    if high ≤ low then high
    else
      let middle := (low + high) / 2
      if test middle then leastLength test fuel low middle
      else leastLength test fuel (middle + 1) high

/-- The place where a text fails to decode. -/
def failurePosition (decode : Decoder α) (s : String) (m : Mismatch) : Position :=
  let cs := s.toList
  if m.isEnd then .behind cs
  else
    let fails (n : Nat) : Bool :=
      match decodeText decode (String.ofList (cs.take n)) with
      | .error e => e == m
      | .ok _ => false
    .behind (cs.take (leastLength fails (cs.length + 1) 0 cs.length))

/-- The wording of a mismatch together with its place. -/
def locatedMessage (decode : Decoder α) (s : String) (m : Mismatch) : String :=
  let p := failurePosition decode s m
  s!"{m.message} at line {p.line} column {p.column}"

/-- Decodes nothing but a value. -/
def Decoder.value : Decoder Value
  | source, j => (Value.ofJson source.levels? j).mapError .notJson

end FlowRouting.Json
