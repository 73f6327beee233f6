import FlowRouting.EvalError
import FlowRouting.Value.Json

/-!
# Templates and operands

A template is a text with *spans*: references between double braces. A span begins at the first
pair of opening braces and ends at the next pair of closing ones, so an opening pair without a
closing one is plain text. Reading a template into parts happens once, from left to right, and both
rendering and the list of references are read off the parts; what a reference is replaced by is
never looked at again.
-/

namespace FlowRouting

/-- What references resolve to. -/
abbrev Variables := String → Except EvalError Value

namespace Template

/-! ## Parts -/

/-- A part of a template. -/
inductive Part where
  /-- A character outside of all spans. -/
  | char (c : Char)
  /-- A span, given by what stands between its braces. -/
  | span (inner : List Char)
deriving DecidableEq

/-- The text of a part. -/
def Part.source : Part → List Char
  | .char c => [c]
  | .span inner => '{' :: '{' :: inner ++ ['}', '}']

/-- The reference of a span. -/
def Part.reference? : Part → Option String
  | .char _ => none
  | .span inner => some (String.ofList (Text.trim inner))

/-- The parts of a text, outside of a span or behind what has been read of one. -/
def scan : Option (List Char) → List Char → List Part
  | none, [] => []
  -- The span was never closed, so its braces were plain characters.
  | some inner, [] => ('{' :: '{' :: inner).map .char
  | none, '{' :: '{' :: cs => scan (some []) cs
  | some inner, '}' :: '}' :: cs => .span inner :: scan none cs
  | none, c :: cs => .char c :: scan none cs
  | some inner, c :: cs => scan (some (inner ++ [c])) cs

def parts (template : String) : List Part :=
  scan none template.toList

/-! ## Rendering -/

/-- What a part is replaced by. -/
def Part.render (vars : Variables) (part : Part) : Except EvalError (List Char) :=
  match part.reference? with
  | none => .ok part.source
  | some reference => (vars reference).map fun v ↦ v.toText.toList

/-- The template with every span replaced by the text of what its reference resolves to, or the
error of the first reference that fails. -/
def interpolate (vars : Variables) (template : String) : Except EvalError String := do
  let rendered ← (parts template).mapM (Part.render vars)
  return String.ofList rendered.flatten

/-- The references of a template, in order. -/
def references (template : String) : List String :=
  (parts template).filterMap Part.reference?

/-- Whether a text has a pair of opening braces. -/
def hasOpening (s : String) : Bool :=
  s.hasPart "\x7b\x7b"

/-! ## Operands

The left side of a clause is a reference, or a template. One that is a single span stands for the
value of its reference; every other template stands for its text. -/

/-- The value of an operand. -/
def resolveOperand (vars : Variables) (field : String) : Except EvalError Value :=
  let trimmed := field.trimBlanks
  if !hasOpening trimmed then vars trimmed
  else
    match parts trimmed with
    | [.span inner] => vars (String.ofList (Text.trim inner))
    -- The blanks around the template belong to its text.
    | _ => (interpolate vars field).map .text

/-- The references of an operand. -/
def operandReferences (field : String) : List String :=
  let trimmed := field.trimBlanks
  if hasOpening trimmed then references trimmed
  else if trimmed.isEmpty then []
  else [trimmed]

end Template

end FlowRouting
