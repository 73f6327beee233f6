import FlowRouting.Regex.Basic
import FlowRouting.Unicode.Age
import FlowRouting.Unicode.Segmentation

/-!
# Sets of characters by name

A pattern may name a set of characters by a general category or a group of them, by a script, or
by a binary property; by an age or a class of text segmentation, if it says which. Names are
compared without regard to case, blanks, hyphens and underscores, and a leading `is` does not
count.
-/

namespace FlowRouting.CharSet

/-! ## Names -/

def asciiChars : CharSet :=
  .ofTable "0-7f"

/-- A name without what does not count in it. -/
def plainName (name : List Char) : String :=
  let plain := (Text.toLowerAscii name).filter fun c ↦
    c != ' ' && c != '_' && c != '-' && c.toNat < 128
  match Text.toLowerAscii name with
  | 'i' :: 's' :: _ => if plain == ['i', 's', 'c'] then "isc" else String.ofList (plain.drop 2)
  | _ => String.ofList plain

/-! ## Categories -/

/-- The long names of the single categories, by their codes. -/
def categoryNames : List (String × String) :=
  [("uppercaseletter", "Lu"), ("lowercaseletter", "Ll"), ("titlecaseletter", "Lt"),
   ("modifierletter", "Lm"), ("otherletter", "Lo"), ("nonspacingmark", "Mn"),
   ("spacingmark", "Mc"), ("enclosingmark", "Me"), ("decimalnumber", "Nd"), ("digit", "Nd"),
   ("letternumber", "Nl"), ("othernumber", "No"), ("connectorpunctuation", "Pc"),
   ("dashpunctuation", "Pd"), ("openpunctuation", "Ps"), ("closepunctuation", "Pe"),
   ("initialpunctuation", "Pi"), ("finalpunctuation", "Pf"), ("otherpunctuation", "Po"),
   ("mathsymbol", "Sm"), ("currencysymbol", "Sc"), ("modifiersymbol", "Sk"),
   ("othersymbol", "So"), ("spaceseparator", "Zs"), ("lineseparator", "Zl"),
   ("paragraphseparator", "Zp"), ("control", "Cc"), ("cntrl", "Cc"), ("format", "Cf"),
   ("privateuse", "Co"), ("unassigned", "Cn")]

/-- The names of the groups of categories, by the letters their codes begin with. -/
def groupNames : List (String × Char) :=
  [("l", 'L'), ("letter", 'L'), ("m", 'M'), ("mark", 'M'), ("combiningmark", 'M'), ("n", 'N'),
   ("number", 'N'), ("p", 'P'), ("punctuation", 'P'), ("punct", 'P'), ("s", 'S'),
   ("symbol", 'S'), ("z", 'Z'), ("separator", 'Z'), ("c", 'C'), ("other", 'C')]

/-- The categories whose codes begin with a letter. -/
def categoryGroup (letter : Char) : List Unicode.Category :=
  Unicode.Category.all.filter fun category ↦ category.code.toList.head? == some letter

/-- The set with the plain name of a category or a group of them. -/
def category? (name : String) : Option CharSet :=
  if name = "any" then some .all
  else if name = "assigned" then some (ofCategories [.unassigned]).compl
  else if name = "ascii" then some asciiChars
  else if name = "lc" ∨ name = "casedletter" then
    some (ofCategories [.uppercaseLetter, .lowercaseLetter, .titlecaseLetter])
  else
    match groupNames.lookup name with
    | some letter => some (ofCategories (categoryGroup letter))
    | none =>
      let code := (categoryNames.lookup name).getD name
      (Unicode.Category.all.find? fun category ↦
        category.code == code || category.code.toLower == name).map
        fun category ↦ ofCategories [category]

/-! ## Properties -/

/-- The characters of the script with a plain name. -/
def script? (name : String) : Option CharSet :=
  (Unicode.script? name).map Unicode.Script.chars

/-- The set with a name. Three names that are also short names of other properties stand for
categories. -/
def named? (name : List Char) : Option CharSet :=
  let plain := plainName name
  let property :=
    if plain = "cf" ∨ plain = "sc" ∨ plain = "lc" then none else Unicode.property? plain
  property <|> category? plain <|> script? plain

/-- The set with a name under a property that is named, too. -/
def namedUnder? (property name : List Char) : Option CharSet :=
  let plain := plainName name
  match plainName property with
  | "generalcategory" | "gc" => category? plain
  | "script" | "sc" => script? plain
  | "scriptextensions" | "scx" => (Unicode.script? plain).map Unicode.Script.usedChars
  | "age" => Unicode.assignedBy? plain
  | "graphemeclusterbreak" | "gcb" => Unicode.graphemeBreak? plain
  | "wordbreak" | "wb" => Unicode.wordBreak? plain
  | "sentencebreak" | "sb" => Unicode.sentenceBreak? plain
  | _ => none

/-! ## Classes of ASCII -/

/-- The set with the name of a class of ASCII characters. -/
def asciiClass? (name : List Char) : Option CharSet :=
  match String.ofList name with
  | "alnum" => some (letterAscii.union digitAscii)
  | "alpha" => some letterAscii
  | "ascii" => some asciiChars
  | "blank" => some (.ofTable "9 20")
  | "cntrl" => some (.ofTable "0-1f 7f")
  | "digit" => some digitAscii
  | "graph" => some (range '!' '~')
  | "lower" => some (range 'a' 'z')
  | "print" => some (range ' ' '~')
  | "punct" => some ((range '!' '~').diff (letterAscii.union digitAscii))
  | "space" => some blankAscii
  | "upper" => some (range 'A' 'Z')
  | "word" => some wordAscii
  | "xdigit" => some (.ofTable "30-39 41-46 61-66")
  | _ => none

end FlowRouting.CharSet
