import FlowRouting.Number.Layout
import FlowRouting.Unicode.Newest

/-!
# Quoted texts in messages

Messages quote texts so that every character of them can be seen: what is not printable, and what
would combine with the character before it, is written as its code point.
-/

namespace FlowRouting.Text

/-- The characters beyond ASCII that do not show up as themselves: those without a shape, those that
may be ignored, and those that combine with the character before them. Two signs of half width that
do not look like marks are shown all the same. -/
def hidden : CharSet :=
  (Unicode.Newest.shapeless.union
    ((Unicode.property? "defaultignorablecodepoint").getD .empty)).union
    (Unicode.Newest.graphemeExtend.diff (.ofTable "ff9e-ff9f"))

/-- Whether a character shows up as itself. -/
def isShown (c : Char) : Bool :=
  if c.toNat < 0x80 then 0x20 ≤ c.toNat && c.toNat < 0x7f else !hidden.contains c

/-- A character as it stands inside of quotes. -/
def quoteChar (c : Char) : List Char :=
  if c = '"' then ['\\', '"']
  else if c = '\\' then ['\\', '\\']
  else if c = '\n' then ['\\', 'n']
  else if c = '\r' then ['\\', 'r']
  else if c = '\t' then ['\\', 't']
  else if c.toNat = 0 then ['\\', '0']
  else if isShown c then [c]
  else '\\' :: 'u' :: '{' :: Nat.toDigits 16 c.toNat ++ ['}']

/-- A text between quotes. -/
def quoted (s : String) : String :=
  String.ofList ('"' :: s.toList.flatMap quoteChar ++ ['"'])

/-- A list of texts, each between quotes. -/
def quotedList (texts : List String) : String :=
  "[" ++ ", ".intercalate (texts.map quoted) ++ "]"

end FlowRouting.Text
