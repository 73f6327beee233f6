import FlowRouting.Text.Quoted
import FlowRouting.Value.Json

/-!
# Documents as typed data

A *decoder* turns a document into typed data or says where the document has the wrong shape. Records
are objects, or lists of their fields in order; members with unknown keys are passed over. What a
decoder reports is the first fault in reading order, so the order of the steps below matters.

Documents come from two sources. One that is being read from a text is walked in text order: faults
of the text and faults of the shape compete, a repeated key is a fault, and the nesting is bounded.
A tree that was read before is walked in key order and of two members under one key has the later
one only.
-/

namespace FlowRouting.Json

/-! ## Mismatches -/

/-- What a document has in a place, as far as a mismatch tells. -/
inductive Found where
  | null
  | bool (b : Bool)
  | integer (n : Int)
  | float (x : Finite)
  | negativeZero
  | string (s : String)
  | sequence
  | map
deriving DecidableEq

def Found.text : Found → String
  | .null => "null"
  | .bool b => s!"boolean `{b}`"
  | .integer n => s!"integer `{String.ofList (writeInt n)}`"
  | .float x => s!"floating point `{String.ofList (NumberLayout.document.write x)}`"
  | .negativeZero => "floating point `-0.0`"
  | .string s => s!"string {Text.quoted s}"
  | .sequence => "sequence"
  | .map => "map"

/-- What a decoder wants in a place. -/
inductive Expected where
  | string
  | sequence
  | map
  | record (name : String)
  | variant
  | unit
  | count
  | size
  | identifier
deriving DecidableEq, Repr

def Expected.text : Expected → String
  | .string => "a string"
  | .sequence => "a sequence"
  | .map => "a map"
  | .record name => s!"struct {name}"
  | .variant => "string or map"
  | .unit => "unit"
  | .count => "u64"
  | .size => "usize"
  | .identifier => "a formatted UUID string"

/-- Why a document is not the data that is wanted. -/
inductive Mismatch where
  | invalidType (found : Found) (expected : Expected)
  | invalidCount (n : Int) (expected : Expected)
  | notSingleKey
  | tooManyItems (n : Nat)
  | tooFewItems (n : Nat) (record : String) (size : Nat)
  | unknownVariant (name : String) (known : List String)
  | missingField (key : String)
  | duplicateField (key : String)
  /-- A text that is refused, with the reason. -/
  | refusedText (reason : String)
  /-- The text of the document is not JSON. -/
  | notJson (fault : Fault)
deriving DecidableEq

/-- The names of variants as a message lists them. -/
def listVariants (names : List String) : String :=
  let ticked := names.map fun name ↦ s!"`{name}`"
  if names.length ≤ 2 then " or ".intercalate ticked else "one of " ++ ", ".intercalate ticked

def Mismatch.message : Mismatch → String
  | .invalidType found expected => s!"invalid type: {found.text}, expected {expected.text}"
  | .invalidCount n expected =>
    s!"invalid value: {(Found.integer n).text}, expected {expected.text}"
  | .notSingleKey => "invalid value: map, expected map with a single key"
  | .tooManyItems n => s!"invalid length {n}, expected fewer elements in array"
  | .tooFewItems n record size =>
    s!"invalid length {n}, expected struct {record} with {size} elements"
  | .unknownVariant name known => s!"unknown variant `{name}`, expected {listVariants known}"
  | .missingField key => s!"missing field `{key}`"
  | .duplicateField key => s!"duplicate field `{key}`"
  | .refusedText reason => reason
  | .notJson fault => fault.message

/-! ## Decoders -/

/-- Where a document comes from. -/
inductive Source where
  /-- It is being read from a text, and may nest that many levels further. -/
  | text (levels : Nat)
  /-- It was read before. -/
  | tree

/-- The bound on the nesting that a source sets. -/
def Source.levels? : Source → Option Nat
  | .text levels => some levels
  | .tree => none

/-- The source of what is inside of a list or an object. -/
def Source.inner : Source → Except Mismatch Source
  | .text 0 => .error (.notJson .tooDeep)
  | .text (n + 1) => .ok (.text n)
  | .tree => .ok .tree

/-- Turns documents into data. -/
abbrev Decoder (α : Type) := Source → Json → Except Mismatch α

/-- The mismatch of a document that is not what is wanted. -/
def mismatch (expected : Expected) : Json → Mismatch
  | .null => .invalidType .null expected
  | .bool b => .invalidType (.bool b) expected
  | .number (.natural n) => .invalidType (.integer n) expected
  | .number (.negative n) => .invalidType (.integer (-n)) expected
  | .number .negativeZero => .invalidType .negativeZero expected
  | .number (.float x) => .invalidType (.float x) expected
  | .string s => .invalidType (.string s) expected
  | .array _ => .invalidType .sequence expected
  | .object _ => .invalidType .map expected
  | .flawed flaw | .flawedKey flaw => .notJson flaw.fault

namespace Decoder

def string : Decoder String
  | _, .string s => .ok s
  | _, j => .error (mismatch .string j)

/-- An integer from zero to `2⁶⁴ - 1`. -/
def natural (expected : Expected) : Decoder Nat
  | _, .number (.natural n) =>
    if n < Nat.pow 2 64 then .ok n else .error (mismatch expected (.number (.natural n)))
  | _, .number (.negative n) => .error (.invalidCount (-n) expected)
  | _, j => .error (mismatch expected j)

/-- Data that may be null. -/
def optional (decode : Decoder α) : Decoder (Option α)
  | _, .null => .ok none
  | source, j => (decode source j).map some

def list (decode : Decoder α) : Decoder (List α)
  | source, .array items => do items.mapM (decode (← source.inner))
  | _, j => .error (mismatch .sequence j)

/-- A record of values. -/
def fields : Decoder Fields
  | source, .object members =>
    match Value.ofJson source.levels? (.object members) with
    | .ok v => .ok (v.asFields?.getD [])
    | .error fault => .error (.notJson fault)
  | _, j => .error (mismatch .map j)

/-! ### Variants -/

/-- The variant with a name. -/
def variantNamed (variants : List (String × α)) (name : String) : Except Mismatch α :=
  match variants.lookup name with
  | some a => .ok a
  | none => .error (.unknownVariant name (variants.map Prod.fst))

def unit : Decoder Unit
  | _, .null => .ok ()
  | _, j => .error (mismatch .unit j)

/-- The variant that the only member of an object names, while a text is read. Behind the member
only the end of the text is told from other faults. -/
def variantMember (variants : List (String × α)) (source : Source) :
    List (String × Json) → Except Mismatch α
  | [] => .error (.notJson .expectedValue)
  | (_, .flawedKey flaw) :: _ => .error (.notJson flaw.naming)
  | (name, payload) :: rest => do
    let a ← variantNamed variants name
    unit source payload
    match rest with
    | [] => return a
    | (_, .flawedKey flaw) :: _ =>
      throw (.notJson (if flaw.fault = .endInObject then .endInObject else .expectedValue))
    | _ => throw (.notJson .expectedValue)

/-- One of several names, alone or as the only key of an object, over null. -/
def variant (variants : List (String × α)) : Decoder α
  | _, .string name => variantNamed variants name
  | .text levels, .object members => do
    variantMember variants (← Source.inner (.text levels)) members
  | .tree, .object members =>
    match Dict.ofList members with
    | [(name, payload)] => do
      let a ← variantNamed variants name
      unit .tree payload
      return a
    | _ => .error .notSingleKey
  | .text _, .flawed flaw | .text _, .flawedKey flaw => .error (.notJson flaw.naming)
  | .text _, _ => .error (.notJson .expectedValue)
  | .tree, j => .error (mismatch .variant j)

end Decoder

/-! ## Records -/

/-- A field of a record. -/
structure Field (α : Type) where
  key : String
  isRequired : Bool
  /-- Decodes the field and puts it into the record. -/
  put : Source → Json → α → Except Mismatch α

/-- A field that must be there. -/
def Field.required (key : String) (decode : Decoder β) (set : β → α → α) : Field α :=
  ⟨key, true, fun source j a ↦ (decode source j).map (set · a)⟩

/-- A field that may be left out. -/
def Field.withDefault (key : String) (decode : Decoder β) (set : β → α → α) : Field α :=
  ⟨key, false, fun source j a ↦ (decode source j).map (set · a)⟩

/-- The shape of a record. -/
structure Shape (α : Type) where
  name : String
  fields : List (Field α)
  /-- The record before any field has been put into it. -/
  blank : α

namespace Shape

variable {α : Type}

def field? (shape : Shape α) (key : String) : Option (Field α) :=
  shape.fields.find? fun field ↦ field.key == key

/-- Puts members into a record, one after the other, and gives the keys that were there. -/
def putMembers (shape : Shape α) (source : Source) :
    List (String × Json) → List String → α → Except Mismatch (List String × α)
  | [], seen, a => .ok (seen, a)
  | (key, j) :: members, seen, a => do
    if let .flawedKey flaw := j then throw (.notJson flaw.fault)
    match shape.field? key with
    | none =>
      -- Passed over, but the text of the value must have the form of a document.
      if let some fault := j.skip? then throw (.notJson fault)
      shape.putMembers source members seen a
    | some field =>
      if seen.contains key then throw (.duplicateField key)
      let a ← field.put source j a
      shape.putMembers source members (key :: seen) a

/-- A record from the members of an object. -/
def ofMembers (shape : Shape α) (source : Source) (members : List (String × Json)) :
    Except Mismatch α := do
  let (seen, a) ← shape.putMembers source members [] shape.blank
  match shape.fields.find? fun field ↦ field.isRequired && !seen.contains field.key with
  | some field => throw (.missingField field.key)
  | none => return a

/-- The mismatch of a list that goes on behind the last field. -/
def trailingItems (source : Source) (length : Nat) : List Json → Option Mismatch
  | [] => none
  | item :: _ =>
    match source, item with
    | .tree, _ => some (.tooManyItems length)
    | .text _, .flawed flaw =>
      some (.notJson
        (if flaw.fault = .endInList ∨ flaw.fault = .trailingComma then flaw.fault
          else .trailingCharacters))
    | .text _, _ => some (.notJson .trailingCharacters)

/-- Puts items into the fields of a record, one after the other. -/
def putItems (shape : Shape α) (source : Source) :
    List (Field α) → List Json → α → Except Mismatch (List Json × α)
  | [], items, a => .ok (items, a)
  | field :: fields, [], a =>
    if field.isRequired then
      .error (.tooFewItems (shape.fields.length - fields.length - 1) shape.name
        shape.fields.length)
    else shape.putItems source fields [] a
  | field :: fields, item :: items, a => do
    let a ← field.put source item a
    shape.putItems source fields items a

/-- A record from the items of a list. -/
def ofItems (shape : Shape α) (source : Source) (items : List Json) : Except Mismatch α := do
  let (rest, a) ← shape.putItems source shape.fields items shape.blank
  match trailingItems source items.length rest with
  | some m => throw m
  | none => return a

def decode (shape : Shape α) : Decoder α
  | source, .object members => do
    let inner ← source.inner
    match inner with
    | .text _ => shape.ofMembers inner members
    | .tree => shape.ofMembers inner (Dict.ofList members)
  | source, .array items => do shape.ofItems (← source.inner) items
  | _, j => .error (mismatch (.record shape.name) j)

end Shape

/-! ## Whole texts -/

def decodeText (decode : Decoder α) (s : String) : Except Mismatch α := do
  let document := Json.parse s
  let a ← decode (.text Value.maxLevels) document.root
  match document.trailing with
  | none => return a
  | some fault => throw (.notJson fault)

end FlowRouting.Json
