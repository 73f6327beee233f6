import FlowRouting.Number.Layout

/-!
# JSON documents

A document is kept as it was read: members in text order, repeated keys included, and every number
with the class it was written in. Two further leaves stand for places where the text is not JSON: a
`flawed` leaf stands for a value, and a `flawedKey` for the key of a member or for what should be
one. What the fault is depends on what is wanted in that place. One who passes over that part of
the document checks less of it, and may not meet a fault at all; then the leaf is delimited, and
the document goes on behind it. Otherwise nothing follows. With these in the tree, a consumer that
walks the document in text order meets the faults of the text and the faults of its shape in the
order in which they stand.
-/

namespace FlowRouting

namespace Json

/-- Why a text is not JSON. -/
inductive Fault where
  | endInValue
  | endInList
  | endInObject
  | endInString
  | expectedColon
  | expectedListCommaOrEnd
  | expectedObjectCommaOrEnd
  | expectedIdentifier
  | expectedValue
  | invalidEscape
  | invalidNumber
  | numberOutOfRange
  | controlCharacter
  | keyMustBeString
  | loneSurrogate
  | unfinishedPair
  | trailingComma
  | trailingCharacters
  | tooDeep
deriving DecidableEq, Repr

def Fault.message : Fault → String
  | .endInValue => "EOF while parsing a value"
  | .endInList => "EOF while parsing a list"
  | .endInObject => "EOF while parsing an object"
  | .endInString => "EOF while parsing a string"
  | .expectedColon => "expected `:`"
  | .expectedListCommaOrEnd => "expected `,` or `]`"
  | .expectedObjectCommaOrEnd => "expected `,` or `\x7d`"
  | .expectedIdentifier => "expected ident"
  | .expectedValue => "expected value"
  | .invalidEscape => "invalid escape"
  | .invalidNumber => "invalid number"
  | .numberOutOfRange => "number out of range"
  | .controlCharacter =>
    "control character (\\u0000-\\u001F) found while parsing a string"
  | .keyMustBeString => "key must be a string"
  | .loneSurrogate => "lone leading surrogate in hex escape"
  | .unfinishedPair => "unexpected end of hex escape"
  | .trailingComma => "trailing comma"
  | .trailingCharacters => "trailing characters"
  | .tooDeep => "recursion limit exceeded"

/-- What is wrong with a part of a text, as seen by three readers. -/
structure Flaw where
  /-- The fault that is met when the part is read. -/
  fault : Fault
  /-- The fault that is met where one of several names is wanted. -/
  naming : Fault
  /-- The fault that is met when the part is passed over, if there is one. -/
  skipping : Option Fault
deriving DecidableEq, Repr

/-- The flaw that all readers see alike. -/
def Flaw.plain (fault : Fault) : Flaw :=
  ⟨fault, fault, some fault⟩

/-- A number of a document. Integers that fit 64 bits are exact; a zero with a minus keeps it,
since a shape error quotes it. -/
inductive Numeral where
  | natural (n : Nat)
  | negative (n : Nat)
  | negativeZero
  | float (x : Finite)
deriving DecidableEq

def Numeral.toNumber : Numeral → Number
  | .natural n => .ofInt n
  | .negative n => .ofInt (-n)
  | .negativeZero => 0
  | .float x => .finite x

def Numeral.write : Numeral → List Char
  | .natural n => Nat.toDigits 10 n
  | .negative n => '-' :: Nat.toDigits 10 n
  | .negativeZero => ['-', '0', '.', '0']
  | .float x => NumberLayout.document.write x

end Json

/-- A JSON document, or as much of one as a text holds. -/
inductive Json where
  | null
  | bool (b : Bool)
  | number (n : Json.Numeral)
  | string (s : String)
  | array (items : List Json)
  | object (members : List (String × Json))
  | flawed (flaw : Json.Flaw)
  | flawedKey (flaw : Json.Flaw)

namespace Json

/-! ## Faults in reading order -/

mutual

/-- The fault that one meets who passes over a document. -/
def skip? : Json → Option Fault
  | .array items => skipItems? items
  | .object members => skipMembers? members
  | .flawed flaw | .flawedKey flaw => flaw.skipping
  | _ => none

/-- The fault that one meets who passes over items of a list. -/
def skipItems? : List Json → Option Fault
  | [] => none
  | item :: items => item.skip?.or (skipItems? items)

/-- The fault that one meets who passes over members of an object. -/
def skipMembers? : List (String × Json) → Option Fault
  | [] => none
  | (_, value) :: members => value.skip?.or (skipMembers? members)

end

end Json

end FlowRouting
