import FlowRouting.Json.Parser
import FlowRouting.Json.Printer
import FlowRouting.Value.Basic

/-!
# Values as JSON

A value is written with its keys in order, small integers without a fraction, and infinities and
not-a-number as null. A value is read from a document of bounded depth; of two entries under one
key the later one stays.
-/

namespace FlowRouting

/-! ## Writing -/

/-- A number in a document. -/
def Number.toJson (x : Number) : Json :=
  match x.smallInt? with
  | some n => .number (if n < 0 then .negative n.natAbs else .natural n.natAbs)
  | none =>
    match x with
    | .finite x => .number (.float x)
    | _ => .null

namespace Value

mutual

/-- The document of a value. -/
def toJson : Value → Json
  | .null => .null
  | .bool b => .bool b
  | .number n => n.toJson
  | .text s => .string s
  | .array items => .array (itemsToJson items)
  | .object fields => .object (fieldsToJson fields)

def itemsToJson : List Value → List Json
  | [] => []
  | item :: items => item.toJson :: itemsToJson items

def fieldsToJson : List (String × Value) → List (String × Json)
  | [] => []
  | (key, value) :: fields => (key, value.toJson) :: fieldsToJson fields

end

/-- The text form of a value, as templates insert it. -/
def toText : Value → String
  | .null => ""
  | .bool b => if b then "true" else "false"
  | .number n => n.toText
  | .text s => s
  | v => v.toJson.compact

/-! ## Reading -/

/-- The number of levels that the text of a value may nest. -/
def maxLevels : Nat :=
  127

/-- The levels that are left below a list or record; `none` stands for no bound. -/
def descend : Option Nat → Except Json.Fault (Option Nat)
  | none => .ok none
  | some 0 => .error .tooDeep
  | some (n + 1) => .ok (some n)

mutual

/-- The value of a document, or the first fault in it. -/
def ofJson (levels : Option Nat) : Json → Except Json.Fault Value
  | .null => .ok .null
  | .bool b => .ok (.bool b)
  | .number n => .ok (.number n.toNumber)
  | .string s => .ok (.text s)
  | .array items => do
    let below ← descend levels
    return .array (← itemsOfJson below items)
  | .object members => do
    let below ← descend levels
    return .object (Dict.ofList (← fieldsOfJson below members))
  | .flawed flaw | .flawedKey flaw => .error flaw.fault

def itemsOfJson (levels : Option Nat) : List Json → Except Json.Fault (List Value)
  | [] => .ok []
  | item :: items => do
    let v ← ofJson levels item
    return v :: (← itemsOfJson levels items)

/-- The values of the members of an object, in text order. -/
def fieldsOfJson (levels : Option Nat) :
    List (String × Json) → Except Json.Fault (List (String × Value))
  | [] => .ok []
  | (key, item) :: members => do
    let v ← ofJson levels item
    return (key, v) :: (← fieldsOfJson levels members)

end

def parse (s : String) : Except Json.Fault Value := do
  let document := Json.parse s
  let v ← ofJson (some maxLevels) document.root
  match document.trailing with
  | none => return v
  | some fault => throw fault

end Value

end FlowRouting
