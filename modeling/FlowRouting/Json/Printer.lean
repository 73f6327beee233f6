import FlowRouting.Json.Basic

/-!
# Writing JSON

One writer serves both layouts: a `Style` says which blanks stand before an item at a given depth
and after a colon. In a string only the quote, the backslash and control characters are escaped.
-/

namespace FlowRouting.Json

/-! ## Strings -/

/-- A character as it is written inside a string. -/
def escapeChar (c : Char) : List Char :=
  if c = '"' then ['\\', '"']
  else if c = '\\' then ['\\', '\\']
  else if c = '\n' then ['\\', 'n']
  else if c = '\r' then ['\\', 'r']
  else if c = '\t' then ['\\', 't']
  else if c = '\x08' then ['\\', 'b']
  else if c = '\x0c' then ['\\', 'f']
  else if c.toNat < 0x20 then
    ['\\', 'u', '0', '0', Text.hexDigit (c.toNat / 16), Text.hexDigit (c.toNat % 16)]
  else [c]

/-- A string between quotes. -/
def writeString (s : String) : List Char :=
  '"' :: s.toList.flatMap escapeChar ++ ['"']

/-! ## Documents -/

/-- The blanks between the parts of a document. -/
structure Style where
  /-- What stands before an item at a depth. -/
  lineBreak : Nat → List Char
  /-- What stands after a colon. -/
  afterColon : List Char

/-- Everything on one line, without blanks. -/
def Style.compact : Style where
  lineBreak _ := []
  afterColon := []

/-- One item a line, indented by two blanks a level. -/
def Style.pretty : Style where
  lineBreak depth := '\n' :: List.replicate (2 * depth) ' '
  afterColon := [' ']

mutual

/-- The text of a document that starts at a depth. A leaf that is no value is written as null. -/
def write (style : Style) (depth : Nat) : Json → List Char
  | .null | .flawed _ | .flawedKey _ => ['n', 'u', 'l', 'l']
  | .bool true => ['t', 'r', 'u', 'e']
  | .bool false => ['f', 'a', 'l', 's', 'e']
  | .number n => n.write
  | .string s => writeString s
  | .array [] => ['[', ']']
  | .array (item :: items) =>
    '[' :: style.lineBreak (depth + 1) ++ item.write style (depth + 1) ++
      (writeItems style (depth + 1) items ++ style.lineBreak depth ++ [']'])
  | .object [] => ['{', '}']
  | .object ((key, value) :: members) =>
    '{' :: style.lineBreak (depth + 1) ++ writeString key ++ ':' :: style.afterColon ++
      value.write style (depth + 1) ++
      (writeMembers style (depth + 1) members ++ style.lineBreak depth ++ ['}'])

/-- The text of the items behind the first one. -/
def writeItems (style : Style) (depth : Nat) : List Json → List Char
  | [] => []
  | item :: items =>
    ',' :: style.lineBreak depth ++ item.write style depth ++ writeItems style depth items

/-- The text of the members behind the first one. -/
def writeMembers (style : Style) (depth : Nat) : List (String × Json) → List Char
  | [] => []
  | (key, value) :: members =>
    ',' :: style.lineBreak depth ++ writeString key ++ ':' :: style.afterColon ++
      value.write style depth ++ writeMembers style depth members

end

def compact (j : Json) : String :=
  String.ofList (j.write .compact 0)

def pretty (j : Json) : String :=
  String.ofList (j.write .pretty 0)

end FlowRouting.Json
