import FlowRouting.Json.Basic

/-!
# Reading JSON

`Json.parse` reads any text. What is not JSON shows up as a leaf of the tree, at the place where
reading met it. The readers work on lists of characters and give what they read together with the
rest of the text, or without a rest when reading stopped.
-/

namespace FlowRouting.Json

/-- The blanks of JSON. -/
def isJsonBlank (c : Char) : Bool :=
  c == ' ' || c == '\n' || c == '\t' || c == '\r'

/-- The text behind the blanks it starts with. -/
def skipBlanks (cs : List Char) : List Char :=
  cs.dropWhile isJsonBlank

/-- Something read, and the rest of the text if reading can go on. -/
abbrev Reading (α : Type) := α × Option (List Char)

/-- A leaf at which reading stops. -/
def stop (flaw : Flaw) : Reading Json :=
  (.flawed flaw, none)

/-! ## Numbers

The significand of a number is cut where it would leave 64 bits: further digits of the whole part
only raise the exponent, further digits of the fraction are dropped. It is then rounded, and
scaled by a rounded power of ten. -/

/-- The largest significand that is kept exactly. -/
def maxSignificand : Nat :=
  Nat.pow 2 64 - 1

/-- A significand, the power of ten that scales it, and whether it is complete. -/
structure Significand where
  value : Nat
  exponent : Int
  full : Bool

/-- Takes up a digit of the whole part. -/
def Significand.pushWhole (s : Significand) (c : Char) : Significand :=
  let next := s.value * 10 + Text.digitValue c
  if s.full || maxSignificand < next then { s with exponent := s.exponent + 1, full := true }
  else { s with value := next }

/-- Takes up a digit of the fraction. -/
def Significand.pushFraction (s : Significand) (c : Char) : Significand :=
  let next := s.value * 10 + Text.digitValue c
  if s.full || maxSignificand < next then { s with full := true }
  else { s with value := next, exponent := s.exponent - 1 }

/-- Divides by `10³⁰⁸` until the exponent is in the table of powers, then scales by the power.
Four divisions bring any significand to zero. -/
def scaleDown : Nat → Finite → Int → Option Finite
  | 0, x, _ => some x
  | n + 1, x, exponent =>
    let power (e : Nat) := (Decimal.nearest false ⟨1, e⟩).finite?
    if exponent.natAbs ≤ 308 then do
      let p ← power exponent.natAbs
      if 0 ≤ exponent then
        (Number.ofQuotient false (x.units.natAbs * p.units.natAbs) unitsPerOne).finite?
      else
        (Number.ofQuotient false (x.units.natAbs * unitsPerOne) p.units.natAbs).finite?
    else if x.units = 0 then some x
    else if 0 ≤ exponent then none
    else do
      let p ← power 308
      let y ← (Number.ofQuotient false (x.units.natAbs * unitsPerOne) p.units.natAbs).finite?
      scaleDown n y (exponent + 308)

/-- The numeral with a sign, a significand and an exponent; none if it is out of range. -/
def floatNumeral? (negative : Bool) (significand : Nat) (exponent : Int) : Option Numeral := do
  let start ← (Number.ofInt significand).finite?
  let x ← scaleDown 4 start exponent
  if negative then
    if x.units = 0 then return .negativeZero
    else (Number.ofQuotient true x.units.natAbs 1).finite?.map .float
  else return .float x

/-- The numeral of an integer without fraction or exponent. -/
def integerNumeral (negative : Bool) (n : Nat) : Option Numeral :=
  if !negative then some (.natural n)
  else if n = 0 ∨ Nat.pow 2 63 < n then floatNumeral? true n 0
  else some (.negative n)

/-- A numeral as a leaf. One that is out of range may be passed over. -/
def numberLeaf : Option Numeral → Json
  | some n => .number n
  | none => .flawed ⟨.numberOutOfRange, .expectedValue, none⟩

/-- A number that is not complete, given whether the text ends in it. -/
def stopInNumber (isEnd : Bool) : Reading Json :=
  stop ⟨if isEnd then .endInValue else .invalidNumber, .expectedValue, some .invalidNumber⟩

/-- The largest exponent that is taken literally; a larger one is out of range, or makes zero. -/
def maxExponent : Nat :=
  Nat.pow 2 31 - 1

/-- Reads what follows an exponent mark. -/
def readExponent (negative : Bool) (s : Significand) (cs : List Char) : Reading Json :=
  let (minus, cs) := Text.scanSign cs
  match cs with
  | [] => stopInNumber true
  | c :: _ =>
    if !c.isDigit then stopInNumber false
    else
      let (digits, rest) := Text.spanDigits cs
      let exponent := Text.foldDigits 0 digits
      if maxExponent < exponent then
        if s.value ≠ 0 && !minus then (numberLeaf none, some rest)
        else (numberLeaf (floatNumeral? negative 0 0), some rest)
      else
        let total := if minus then s.exponent - exponent else s.exponent + exponent
        (numberLeaf (floatNumeral? negative s.value total), some rest)

/-- Reads what follows the point of a number. -/
def readFraction (negative : Bool) (s : Significand) (cs : List Char) : Reading Json :=
  let (digits, rest) := Text.spanDigits cs
  if digits.isEmpty then stopInNumber rest.isEmpty
  else
    let s := digits.foldl Significand.pushFraction { s with full := false }
    match rest with
    | 'e' :: rest | 'E' :: rest => readExponent negative s rest
    | _ => (numberLeaf (floatNumeral? negative s.value s.exponent), some rest)

/-- Reads a number behind its sign. -/
def readNumber (negative : Bool) (cs : List Char) : Reading Json :=
  let (digits, rest) := Text.spanDigits cs
  match digits with
  | [] => stopInNumber rest.isEmpty
  | first :: more =>
    if first == '0' && !more.isEmpty then stopInNumber false
    else
      let s := digits.foldl Significand.pushWhole ⟨0, 0, false⟩
      match rest with
      | '.' :: rest => readFraction negative s rest
      | 'e' :: rest | 'E' :: rest => readExponent negative s rest
      | _ =>
        -- A whole part that was cut has a power of ten behind it and is no integer any more.
        if s.full then (numberLeaf (floatNumeral? negative s.value s.exponent), some rest)
        else (numberLeaf (integerNumeral negative s.value), some rest)

/-! ## Strings

In a string that is passed over only the form of the escapes counts. In one that is read the
16-bit units that `\u` escapes write must be characters, too: a unit of the upper half of a pair
needs one of the lower half behind it. -/

/-- The character that a one-letter escape stands for. -/
def unescape? : Char → Option Char
  | '"' => some '"'
  | '\\' => some '\\'
  | '/' => some '/'
  | 'b' => some '\x08'
  | 'f' => some '\x0c'
  | 'n' => some '\n'
  | 'r' => some '\r'
  | 't' => some '\t'
  | _ => none

/-- The number that four hexadecimal digits write. -/
def hexWord? (a b c d : Char) : Option Nat := do
  return (((← Text.hexValue? a) * 16 + (← Text.hexValue? b)) * 16 + (← Text.hexValue? c)) * 16 +
    (← Text.hexValue? d)

/-- The fault of a `\u` escape behind which fewer than four characters are left. Four bytes are
enough for it to be a wrong escape; with fewer it is cut off. -/
def shortEscape (cs : List Char) : Fault :=
  if cs.foldl (fun n c ↦ n + c.utf8Size) 0 < 4 then .endInString else .invalidEscape

/-- The text behind a string that is passed over. -/
def skipString : List Char → Except Fault (List Char)
  | [] | ['\\'] => .error .endInString
  | '"' :: rest => .ok rest
  | '\\' :: 'u' :: a :: b :: c :: d :: rest =>
    if (hexWord? a b c d).isSome then skipString rest else .error .invalidEscape
  | '\\' :: 'u' :: rest => .error (shortEscape rest)
  | '\\' :: c :: rest =>
    if (unescape? c).isSome then skipString rest else .error .invalidEscape
  | c :: rest => if c.toNat < 0x20 then .error .controlCharacter else skipString rest

/-- Whether a unit is of the upper half of a pair, which comes first. -/
def isUpperHalf (n : Nat) : Bool :=
  0xd800 ≤ n && n ≤ 0xdbff

/-- Whether a unit is of the lower half of a pair. -/
def isLowerHalf (n : Nat) : Bool :=
  0xdc00 ≤ n && n ≤ 0xdfff

def pairChar (upper lower : Nat) : Char :=
  Char.ofNat (0x10000 + (upper - 0xd800) * 0x400 + (lower - 0xdc00))

/-- The characters of a string up to its closing quote. -/
def readChars : List Char → Except Fault (List Char)
  | [] | ['\\'] => .error .endInString
  | '"' :: _ => .ok []
  | '\\' :: 'u' :: a :: b :: c :: d :: rest =>
    match hexWord? a b c d with
    | none => .error .invalidEscape
    | some n =>
      if isLowerHalf n then .error .loneSurrogate
      else if !isUpperHalf n then (readChars rest).map (Char.ofNat n :: ·)
      else
        match rest with
        | [] | ['\\'] => .error .endInString
        | '\\' :: 'u' :: a :: b :: c :: d :: rest =>
          match hexWord? a b c d with
          | none => .error .invalidEscape
          | some m =>
            if isLowerHalf m then (readChars rest).map (pairChar n m :: ·)
            else .error .loneSurrogate
        | '\\' :: 'u' :: rest => .error (shortEscape rest)
        | _ => .error .unfinishedPair
  | '\\' :: 'u' :: rest => .error (shortEscape rest)
  | '\\' :: c :: rest =>
    match unescape? c with
    | some e => (readChars rest).map (e :: ·)
    | none => .error .invalidEscape
  | c :: rest =>
    if c.toNat < 0x20 then .error .controlCharacter else (readChars rest).map (c :: ·)

/-- Reads a string behind its opening quote. Where the string is flawed, reading goes on behind it
if it can be passed over. -/
def readString (cs : List Char) : Reading (Except Flaw String) :=
  match skipString cs, readChars cs with
  | .ok rest, .ok text => (.ok (String.ofList text), some rest)
  | .ok rest, .error fault => (.error ⟨fault, fault, none⟩, some rest)
  | .error skipping, .error fault => (.error ⟨fault, fault, some skipping⟩, none)
  | .error skipping, .ok _ => (.error (.plain skipping), none)

/-! ## Documents -/

/-- Reads the rest of a keyword. -/
def readKeyword (value : Json) : List Char → List Char → Reading Json
  | [], rest => (value, some rest)
  | _ :: _, [] => stop ⟨.endInValue, .expectedValue, some .endInValue⟩
  | w :: word, c :: rest =>
    if w = c then readKeyword value word rest
    else stop ⟨.expectedIdentifier, .expectedValue, some .expectedIdentifier⟩

/-- The end of the items of a list at a flaw. -/
def stopInList (flaw : Flaw) : Reading (List Json) :=
  ([.flawed flaw], none)

/-- The end of the members of an object at a flaw in place of a key. -/
def stopInObject (flaw : Flaw) : Reading (List (String × Json)) :=
  ([("", .flawedKey flaw)], none)

mutual

/-- Reads a value. The fuel bounds the number of nested calls; twice the length of the text is
enough. -/
def readValue : Nat → List Char → Reading Json
  | 0, _ => stop (.plain .tooDeep)
  | fuel + 1, cs =>
    match skipBlanks cs with
    | [] => stop (.plain .endInValue)
    | 'n' :: rest => readKeyword .null ['u', 'l', 'l'] rest
    | 't' :: rest => readKeyword (.bool true) ['r', 'u', 'e'] rest
    | 'f' :: rest => readKeyword (.bool false) ['a', 'l', 's', 'e'] rest
    | '-' :: rest => readNumber true rest
    | '"' :: rest =>
      (readString rest).map (fun
        | .ok s => .string s
        | .error flaw => .flawed flaw) id
    | '[' :: rest => (readItems fuel true rest).map .array id
    | '{' :: rest => (readMembers fuel true rest).map .object id
    | c :: rest => if c.isDigit then readNumber false (c :: rest) else stop (.plain .expectedValue)

/-- Reads the items of a list up to its bracket. -/
def readItems : Nat → Bool → List Char → Reading (List Json)
  | 0, _, _ => stopInList (.plain .tooDeep)
  | fuel + 1, first, cs =>
    match skipBlanks cs with
    | [] => stopInList (.plain .endInList)
    | ']' :: rest => ([], some rest)
    | c :: rest =>
      if first then readItem fuel (c :: rest)
      else if c = ',' then
        match skipBlanks rest with
        | [] => stopInList (.plain .endInValue)
        | ']' :: _ => stopInList ⟨.trailingComma, .trailingComma, some .expectedValue⟩
        | rest => readItem fuel rest
      else stopInList (.plain .expectedListCommaOrEnd)

/-- Reads an item and the items behind it. -/
def readItem : Nat → List Char → Reading (List Json)
  | 0, _ => stopInList (.plain .tooDeep)
  | fuel + 1, cs =>
    match readValue fuel cs with
    | (item, none) => ([item], none)
    | (item, some rest) => (readItems fuel false rest).map (item :: ·) id

/-- Reads the members of an object up to its brace. -/
def readMembers : Nat → Bool → List Char → Reading (List (String × Json))
  | 0, _, _ => stopInObject (.plain .tooDeep)
  | fuel + 1, first, cs =>
    match skipBlanks cs with
    | [] => stopInObject ⟨.endInObject, .endInValue, some .endInObject⟩
    | '}' :: rest => ([], some rest)
    | c :: rest =>
      if first then
        if c = '"' then readMember fuel rest
        else stopInObject ⟨.keyMustBeString, .expectedValue, some .keyMustBeString⟩
      else if c = ',' then
        match skipBlanks rest with
        | [] => stopInObject ⟨.endInValue, .endInValue, some .endInObject⟩
        | '"' :: rest => readMember fuel rest
        | '}' :: _ => stopInObject ⟨.trailingComma, .trailingComma, some .keyMustBeString⟩
        | _ => stopInObject (.plain .keyMustBeString)
      else stopInObject (.plain .expectedObjectCommaOrEnd)

/-- Reads a member behind the quote of its key, and the members behind it. A flawed key is a leaf of
its own before its value. -/
def readMember : Nat → List Char → Reading (List (String × Json))
  | 0, _ => stopInObject (.plain .tooDeep)
  | fuel + 1, cs =>
    match readString cs with
    | (.ok name, some rest) => readPayload fuel name rest
    | (.error flaw, some rest) =>
      (readPayload fuel "" rest).map (("", .flawedKey flaw) :: ·) id
    | (.error flaw, none) => stopInObject flaw
    | (.ok _, none) => stopInObject (.plain .endInString)

/-- Reads a member behind its key, and the members behind it. -/
def readPayload : Nat → String → List Char → Reading (List (String × Json))
  | 0, name, _ => ([(name, .flawed (.plain .tooDeep))], none)
  | fuel + 1, name, cs =>
    match skipBlanks cs with
    | [] => ([(name, .flawed (.plain .endInObject))], none)
    | ':' :: rest =>
      match readValue fuel rest with
      | (value, none) => ([(name, value)], none)
      | (value, some rest) => (readMembers fuel false rest).map ((name, value) :: ·) id
    | _ => ([(name, .flawed (.plain .expectedColon))], none)

end

/-- A text read as a document: its value, and whether something stands behind it. -/
structure Document where
  root : Json
  /-- The fault behind the value, if reading came that far. -/
  trailing : Option Fault

def parse (s : String) : Document :=
  let cs := s.toList
  match readValue (4 * cs.length + 4) cs with
  | (root, none) => ⟨root, none⟩
  | (root, some rest) =>
    ⟨root, if (skipBlanks rest).isEmpty then none else some .trailingCharacters⟩

end FlowRouting.Json
