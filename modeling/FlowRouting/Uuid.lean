import FlowRouting.Text.Digits

/-!
# Identifiers of workflows and runs

An identifier has 128 bits. It is written as 32 small hexadecimal digits in five groups, and read
in that form with digits of either case, between braces or behind `urn:uuid:`, or as 32 digits
without hyphens.
-/

namespace FlowRouting

/-- An identifier of 128 bits. -/
structure Uuid where
  value : Nat
  isLt : value < Nat.pow 2 128
deriving DecidableEq

namespace Uuid

def nil : Uuid :=
  ⟨0, by decide⟩

/-- The identifier of 128 random bits that says of itself that it is random. -/
def random (bits : Nat) : Uuid :=
  let version := 4 * Nat.pow 2 76
  let variant := 2 * Nat.pow 2 62
  let high := bits / Nat.pow 2 80 % Nat.pow 2 48
  let middle := bits / Nat.pow 2 64 % Nat.pow 2 12
  let low := bits % Nat.pow 2 62
  ⟨(high * Nat.pow 2 80 + version + middle * Nat.pow 2 64 + variant + low) % Nat.pow 2 128,
    Nat.mod_lt _ (by decide)⟩

/-! ## Writing -/

/-- The last `n` hexadecimal digits of a number. -/
def hexDigits : Nat → Nat → List Char
  | 0, _ => []
  | n + 1, value => hexDigits n (value / 16) ++ [Text.hexDigit (value % 16)]

/-- The lengths of the groups of digits. -/
def groupLengths : List Nat :=
  [8, 4, 4, 4, 12]

/-- Digits in groups with hyphens between them. -/
def hyphenate : List Nat → List Char → List Char
  | [], _ => []
  | [n], cs => cs.take n
  | n :: lengths, cs => cs.take n ++ '-' :: hyphenate lengths (cs.drop n)

def toText (id : Uuid) : String :=
  String.ofList (hyphenate groupLengths (hexDigits 32 id.value))

/-! ## Reading -/

/-- The digits of groups with hyphens between them. -/
def joinGroups? : List Nat → List Char → Option (List Char)
  | [], cs => if cs.isEmpty then some [] else none
  | [n], cs => if cs.length = n then some cs else none
  | n :: lengths, cs =>
    match cs.drop n with
    | '-' :: rest =>
      if n ≤ cs.length then (joinGroups? lengths rest).map (cs.take n ++ ·) else none
    | _ => none

/-- The identifier with these hexadecimal digits. -/
def ofDigits? (digits : List Char) : Option Uuid := do
  let values ← digits.mapM Text.hexValue?
  let value := values.foldl (fun n d ↦ 16 * n + d) 0
  if h : value < Nat.pow 2 128 then some ⟨value, h⟩ else none

/-- The digits of the text of an identifier, without what stands around and between them. -/
def digits? (cs : List Char) : Option (List Char) :=
  match cs.length with
  | 32 => some cs
  | 36 => joinGroups? groupLengths cs
  | 38 =>
    if cs.head? = some '{' ∧ cs.getLast? = some '}' then
      joinGroups? groupLengths (cs.drop 1).dropLast
    else none
  | 45 =>
    let scheme := "urn:uuid:".toList
    if scheme.isPrefixOf cs then joinGroups? groupLengths (cs.drop scheme.length) else none
  | _ => none

def parse? (s : String) : Option Uuid :=
  (digits? s.toList).bind ofDigits?

end Uuid

end FlowRouting
