import FlowRouting.Dict
import FlowRouting.Number.Layout

/-!
# Values

Run inputs, node outputs and operands are dynamic values. A value is navigated by a path: segments
joined by dots, each a key of a record or an index into a list. A path that leads nowhere leads to
`null`, and the empty path stays where it is.
-/

namespace FlowRouting

/-- A dynamic value. -/
inductive Value where
  | null
  | bool (b : Bool)
  | number (n : Number)
  | text (s : String)
  | array (items : List Value)
  | object (fields : List (String × Value))

/-- The fields of a record: node outputs and node configurations. -/
abbrev Fields := Dict Value

namespace Value

instance : Inhabited Value := ⟨.null⟩

/-! ## Parts of a value -/

def asText? : Value → Option String
  | .text s => some s
  | _ => none

def asNumber? : Value → Option Number
  | .number n => some n
  | _ => none

def asBool? : Value → Option Bool
  | .bool b => some b
  | _ => none

def asFields? : Value → Option Fields
  | .object fields => some fields
  | _ => none

/-- Null, the empty text, the empty list and the empty record are empty. -/
def isEmpty : Value → Bool
  | .null => true
  | .text s => s.isEmpty
  | .array items => items.isEmpty
  | .object fields => fields.isEmpty
  | .bool _ | .number _ => false

/-- The kinds of values. -/
inductive Kind where
  | string
  | number
  | boolean
  | array
  | object
  | null
deriving DecidableEq, Repr

/-- The kinds in the order in which messages list them. -/
def Kind.all : List Kind :=
  [.string, .number, .boolean, .array, .object, .null]

def Kind.name : Kind → String
  | .string => "string"
  | .number => "number"
  | .boolean => "boolean"
  | .array => "array"
  | .object => "object"
  | .null => "null"

def Kind.ofName? (name : String) : Option Kind :=
  Kind.all.find? fun kind ↦ kind.name == name

def kind : Value → Kind
  | .null => .null
  | .bool _ => .boolean
  | .number _ => .number
  | .text _ => .string
  | .array _ => .array
  | .object _ => .object

/-! ## Paths -/

/-- The index that a segment writes: decimal digits, at most one plus before them, below `2⁶⁴`. -/
def index? (segment : String) : Option Nat :=
  let digits :=
    match segment.toList with
    | '+' :: cs => cs
    | cs => cs
  if digits.isEmpty || !digits.all Char.isDigit then none
  else
    let n := Text.foldDigits 0 digits
    if n < Nat.pow 2 64 then some n else none

/-- One step of a path. -/
def step? (v : Value) (segment : String) : Option Value :=
  match v with
  | .object fields => Dict.get? fields segment
  | .array items => (index? segment).bind (items[·]?)
  | _ => none

/-- Follows segments one after the other. -/
def walk? (v : Value) (segments : List String) : Option Value :=
  segments.foldlM step? v

/-- The value at a path. -/
def getPath (v : Value) (path : String) : Value :=
  if path.isEmpty then v else (v.walk? (path.pieces '.')).getD .null

theorem walk?_append (v : Value) (p q : List String) :
    v.walk? (p ++ q) = (v.walk? p).bind (·.walk? q) :=
  List.foldlM_append

@[simp] theorem getPath_empty (v : Value) : v.getPath "" = v := rfl

end Value

end FlowRouting
