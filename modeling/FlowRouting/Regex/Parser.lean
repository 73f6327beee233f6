import FlowRouting.Text.Digits
import FlowRouting.Regex.Named
import FlowRouting.Regex.Size
import FlowRouting.Unicode.Newest

/-!
# Reading regular expressions

The reader keeps the text that is left, the flags that are on, the number of groups and the names of
groups that are taken. Flags change in reading order: those set inside of a group hold up to its
end.
-/

namespace FlowRouting.Regex

/-- Why a pattern is not a regular expression. -/
inductive Fault where
  | unclosedGroup
  | unopenedGroup
  | unclosedClass
  | emptyRange
  | badRange
  | badEscape
  | badFlags
  | badGroupName
  | badCount
  | nothingToRepeat
  | unknownName
  | unsupported
  | notText
  | tooDeep
  | tooLarge
deriving DecidableEq, Repr

def Fault.description : Fault → String
  | .unclosedGroup => "unclosed group"
  | .unopenedGroup => "unopened group"
  | .unclosedClass => "unclosed character class"
  | .emptyRange => "invalid character class range, the start must be <= the end"
  | .badRange => "invalid range boundary, must be a literal"
  | .badEscape => "unrecognized or incomplete escape sequence"
  | .badFlags => "unrecognized, repeated or missing flag"
  | .badGroupName => "empty, invalid or duplicate capture group name"
  | .badCount => "invalid or unclosed counted repetition"
  | .nothingToRepeat => "repetition operator missing expression"
  | .unknownName => "Unicode property not found"
  | .unsupported => "look-around and backreferences are not supported"
  | .notText => "pattern can match invalid text or a class that is not allowed here"
  | .tooDeep => "exceed the maximum number of nested parentheses/brackets"
  | .tooLarge => s!"Compiled regex exceeds size limit of {Size.limit} bytes."

/-- The wording of a fault. What is well formed but too large is no error of reading. -/
def Fault.message : Fault → String
  | .tooLarge => Fault.tooLarge.description
  | fault => "regex parse error: " ++ fault.description

/-! ## The state of reading -/

/-- What the flags of a pattern turn on and off. -/
structure Flags where
  ignoreCase : Bool := false
  multiLine : Bool := false
  dotAll : Bool := false
  unicode : Bool := true
  crlf : Bool := false
  ignoreBlanks : Bool := false
  /-- Whether repetitions are lazy without a mark, and not lazy with one. -/
  swapLazy : Bool := false

/-- How far a pattern has been read. -/
structure Scanner where
  rest : List Char
  flags : Flags := {}
  /-- The number of groups so far. -/
  groups : Nat := 0
  /-- The names of groups so far. -/
  names : List String := []

/-- A step of reading. -/
abbrev Scan := StateT Scanner (Except Fault)

def peek : Scan (Option Char) := do
  return (← get).rest.head?

/-- The text without the blanks and comments that it starts with. -/
def dropComments : List Char → List Char
  | [] => []
  | c :: cs =>
    if isBlank c then dropComments cs
    else if c = '#' then inComment cs
    else c :: cs
where
  /-- The same inside of a comment, which ends with the line. -/
  inComment : List Char → List Char
    | [] => []
    | c :: cs => if c = '\n' then dropComments cs else inComment cs

/-- Passes over blanks and comments, if they do not count. -/
def skipIgnored : Scan Unit :=
  modify fun s ↦ if s.flags.ignoreBlanks then { s with rest := dropComments s.rest } else s

def advance : Scan Unit :=
  modify fun s ↦ { s with rest := s.rest.drop 1 }

/-- Passes over a character and what does not count behind it. -/
def advanceSkip : Scan Unit := do
  advance
  skipIgnored

/-- Passes over a part that the text starts with, and tells whether it does. -/
def acceptPart (part : String) : Scan Bool := do
  let s ← get
  if part.toList.isPrefixOf s.rest then
    set { s with rest := s.rest.drop part.length }
    return true
  else return false

/-- Passes over the first of several parts that the text starts with, and tells whether there is
one. -/
def acceptOneOf : List String → Scan Bool
  | [] => return false
  | part :: parts => do if ← acceptPart part then return true else acceptOneOf parts

/-- Passes over a character that must come next. -/
def expect (c : Char) (fault : Fault) : Scan Unit := do
  if (← peek) = some c then advance else throw fault

/-! ## Pieces -/

/-- The deepest nesting that is allowed. -/
def maxHeight : Nat :=
  250

/-- An expression with the height of its nesting. -/
structure Piece where
  regex : Regex
  height : Nat

def Piece.empty : Piece :=
  ⟨.empty, 0⟩

/-- The expression around others. -/
def Piece.wrap (regex : Regex) (height : Nat) : Scan Piece :=
  if height < maxHeight then return ⟨regex, height + 1⟩ else throw .tooDeep

/-- A set of characters with the height of its nesting. -/
structure SetPiece where
  chars : CharSet
  height : Nat

def SetPiece.single (c : Char) : SetPiece :=
  ⟨.single c, 0⟩

/-- The expression of a character of the set. -/
def SetPiece.toPiece (set : SetPiece) : Piece :=
  ⟨.ofSet set.chars, set.height⟩

/-- What an escape or a character stands for. -/
inductive Primitive where
  /-- A character; it may have been given as a byte. -/
  | literal (c : Char) (isByte : Bool)
  | set (s : CharSet)
  | assertion (a : Assertion)

/-- The expression of a single character. -/
def literalRegex (flags : Flags) (c : Char) (isByte : Bool) : Except Fault Regex :=
  if flags.unicode then
    .ok (.ofSet (if flags.ignoreCase then (CharSet.single c).foldCase else .single c))
  else if isByte && 128 ≤ c.toNat then .error .notText
  else .ok (.ofSet (if flags.ignoreCase then (CharSet.single c).foldCaseAscii else .single c))

/-- The expression of a primitive outside of a class. -/
def Primitive.toPiece (flags : Flags) : Primitive → Except Fault Piece
  | .literal c isByte => do return ⟨← literalRegex flags c isByte, 0⟩
  | .set s => .ok ⟨.ofSet s, 0⟩
  | .assertion a => .ok ⟨.assertion a, 0⟩

/-! ## Escapes -/

/-- Whether a character is a hexadecimal digit. -/
def isHexDigit (c : Char) : Bool :=
  (Text.hexValue? c).isSome

/-- The character whose code point hexadecimal digits write. -/
def charOfHex? (digits : List Char) : Option Char :=
  let n := Text.hexNumber digits
  if h : n.isValidChar then some (Char.ofNatAux n h) else none

/-- Reads a given number of hexadecimal digits. -/
def hexDigits : Nat → Scan (List Char)
  | 0 => return []
  | n + 1 => do
    match (← get).rest with
    | c :: _ =>
      if !isHexDigit c then throw .badEscape
      advanceSkip
      return c :: (← hexDigits n)
    | [] => throw .badEscape

/-- Reads hexadecimal digits up to a closing brace. -/
def bracedHexDigits : Nat → Scan (List Char)
  | 0 => throw .badEscape
  | fuel + 1 => do
    match ← peek with
    | none => throw .badEscape
    | some '}' =>
      advanceSkip
      return []
    | some c =>
      if !isHexDigit c then throw .badEscape
      advanceSkip
      return c :: (← bracedHexDigits fuel)

/-- Reads a character given by its code point, behind the letter of the escape. -/
def hexEscape (digits : Nat) : Scan Primitive := do
  match ← peek with
  | none => throw .badEscape
  | some '{' =>
    advanceSkip
    let hex ← bracedHexDigits (← get).rest.length
    match charOfHex? hex with
    | some c => if hex.isEmpty then throw .badEscape else return .literal c false
    | none => throw .badEscape
  | some _ =>
    let hex ← hexDigits digits
    match charOfHex? hex with
    | some c => return .literal c (digits == 2)
    | none => throw .badEscape

/-- Reads a name up to a closing brace. -/
def bracedName : Nat → Scan (List Char)
  | 0 => throw .badEscape
  | fuel + 1 => do
    match ← peek with
    | none => throw .badEscape
    | some '}' =>
      advance
      return []
    | some c =>
      advanceSkip
      return c :: (← bracedName fuel)

/-- The text before a part and the text behind it. -/
def splitAtPart? (part : List Char) : List Char → Option (List Char × List Char)
  | [] => none
  | c :: cs =>
    if part.isPrefixOf (c :: cs) then some ([], (c :: cs).drop part.length)
    else (splitAtPart? part cs).map fun p ↦ (c :: p.1, p.2)

/-- The set that the text between the braces of a named class names, and whether its complement
is meant. -/
def namedSet? (name : List Char) : Option (CharSet × Bool) :=
  match splitAtPart? ['!', '='] name with
  | some (property, value) => (CharSet.namedUnder? property value).map fun s ↦ (s, true)
  | none =>
    match splitAtPart? [':'] name <|> splitAtPart? ['='] name with
    | some (property, value) => (CharSet.namedUnder? property value).map fun s ↦ (s, false)
    | none => (CharSet.named? name).map fun s ↦ (s, false)

/-- Reads a named class behind its letter. Its complement is taken after case folding. -/
def namedClass (negated : Bool) : Scan Primitive := do
  let set? ←
    match ← peek with
    | none => throw .badEscape
    | some '{' =>
      advanceSkip
      pure (namedSet? (← bracedName ((← get).rest.length + 1)))
    | some c =>
      if c = '\\' then throw .badEscape
      advanceSkip
      pure (namedSet? [c])
  let flags := (← get).flags
  if !flags.unicode then throw .notText
  match set? with
  | none => throw .unknownName
  | some (s, flipped) =>
    let s := if flags.ignoreCase then s.foldCase else s
    -- Two negations cancel out.
    return .set (if negated != flipped then s.compl else s)

/-- The set of digits, blanks or word characters that a letter stands for. -/
def shortClass (letter : Char) : Scan Primitive := do
  let flags := (← get).flags
  let set : CharSet :=
    match letter.toLower, flags.unicode with
    | 'd', true => .decimalDigit
    | 'd', false => .digitAscii
    | 's', true => .blank
    | 's', false => .blankAscii
    | _, true => .word
    | _, false => .wordAscii
  if letter.isUpper then
    if flags.unicode then return .set set.compl else throw .notText
  else return .set set

/-- Whether a character may stand in the name of a special word edge. -/
def isEdgeChar (c : Char) : Bool :=
  c.isAlpha || c == '-'

/-- Reads the name of a special word edge, blanks between its letters passed over. -/
def edgeName : Nat → Scan (List Char)
  | 0 => return []
  | fuel + 1 => do
    match ← peek with
    | none => return []
    | some c =>
      if isEdgeChar c then
        advanceSkip
        return c :: (← edgeName fuel)
      else return []

/-- Reads what may make a word boundary special. What does not begin like the name of an edge is
left for a counted repetition. -/
def wordEdge : Scan WordEdge := do
  let before ← get
  if before.rest.head? ≠ some '{' then return .boundary
  advanceSkip
  match ← peek with
  | none => throw .badEscape
  | some c =>
    if !isEdgeChar c then
      set before
      return .boundary
    else
      let name ← edgeName ((← get).rest.length)
      expect '}' .badEscape
      match String.ofList name with
      | "start" => return .start
      | "end" => return .finish
      | "start-half" => return .startHalf
      | "end-half" => return .finishHalf
      | _ => throw .badEscape

/-- Whether a character that has no meaning of its own behind a backslash may stand there. -/
def isEscapable (c : Char) : Bool :=
  c.toNat < 128 && !c.isAlphanum && c != '<' && c != '>'

def escape : Scan Primitive := do
  advance
  match ← peek with
  | none => throw .badEscape
  | some c =>
    let unicode := (← get).flags.unicode
    if c.isDigit then throw .unsupported
    else if c = 'x' ∨ c = 'u' ∨ c = 'U' then
      advanceSkip
      hexEscape (if c = 'x' then 2 else if c = 'u' then 4 else 8)
    else if c = 'p' ∨ c = 'P' then
      advanceSkip
      namedClass (c == 'P')
    else if ['d', 's', 'w', 'D', 'S', 'W'].contains c then
      advance
      shortClass c
    else
      advance
      if isEscapable c then return .literal c false
      else
        match c with
        | 'a' => return .literal '\x07' false
        | 'f' => return .literal '\x0c' false
        | 't' => return .literal '\t' false
        | 'n' => return .literal '\n' false
        | 'r' => return .literal '\r' false
        | 'v' => return .literal '\x0b' false
        | 'A' => return .assertion .textStart
        | 'z' => return .assertion .textEnd
        | 'b' => return .assertion (.word unicode (← wordEdge))
        | 'B' => return .assertion (.word unicode .inside)
        | '<' => return .assertion (.word unicode .start)
        | '>' => return .assertion (.word unicode .finish)
        | _ => throw .badEscape

/-! ## Classes -/

/-- An operation between two parts of a class. -/
inductive SetOp where
  | inter
  | diff
  | symmDiff

/-- The set that an operation makes of two. -/
def SetOp.apply : SetOp → CharSet → CharSet → CharSet
  | .inter => CharSet.inter
  | .diff => CharSet.diff
  | .symmDiff => CharSet.symmDiff

/-- The part of a class that has been read: an operation that waits for its right side, and the
items since then. -/
structure ClassState where
  pending : Option (SetOp × SetPiece) := none
  items : List SetPiece := []

/-- The union of the items read last. -/
def ClassState.union (s : ClassState) : SetPiece :=
  match s.items with
  | [] => ⟨.empty, 0⟩
  | [item] => item
  | items =>
    ⟨items.foldl (fun set item ↦ set.union item.chars) .empty,
      items.foldl (fun h item ↦ max h item.height) 0 + 1⟩

/-- A set with the case variants of its members, if case does not count. -/
def foldIfAsked (flags : Flags) (set : CharSet) : CharSet :=
  if !flags.ignoreCase then set
  else if flags.unicode then set.foldCase
  else set.foldCaseAscii

/-- The set read so far. Both sides of an operation are folded before it is applied. -/
def ClassState.total (flags : Flags) (s : ClassState) : SetPiece :=
  let right := s.union
  match s.pending with
  | none => right
  | some (op, left) =>
    ⟨op.apply (foldIfAsked flags left.chars) (foldIfAsked flags right.chars),
      max left.height right.height + 1⟩

/-- The set of a class with its brackets: folded, then complemented. A class of bytes must stay
within ASCII. -/
def closeClass (flags : Flags) (negated : Bool) (inner : SetPiece) : Except Fault SetPiece :=
  let folded := foldIfAsked flags inner.chars
  let chars := if negated then folded.compl else folded
  if !flags.unicode && (List.range 128).any fun i ↦ chars.contains (Char.ofNat (128 + i)) then
    .error .notText
  else if maxHeight ≤ inner.height then .error .tooDeep
  else .ok ⟨chars, inner.height + 1⟩

/-- Reads the name of a class of ASCII characters between colons and a bracket; what is none is
left as it is. -/
def asciiClass? : Scan (Option SetPiece) := do
  let before ← get
  match before.rest with
  | '[' :: ':' :: cs =>
    let (negated, cs) := match cs with
      | '^' :: cs => (true, cs)
      | cs => (false, cs)
    let name := cs.takeWhile (· != ':')
    match cs.dropWhile (· != ':'), CharSet.asciiClass? name with
    | ':' :: ']' :: rest, some chars =>
      set { before with rest }
      let chars := foldIfAsked before.flags chars
      if negated then
        if before.flags.unicode then return some ⟨chars.compl, 0⟩ else throw .notText
      else return some ⟨chars, 0⟩
    | _, _ => return none
  | _ => return none

/-- Reads a character or an escape inside of a class. -/
def classPrimitive : Scan Primitive := do
  match ← peek with
  | none => throw .unclosedClass
  | some '\\' => escape
  | some c =>
    advance
    return .literal c false

/-- The character that a bound of a range must be. -/
def rangeBound : Primitive → Except Fault (Char × Bool)
  | .literal c isByte => .ok (c, isByte)
  | _ => .error .badRange

/-- A character of a class, which must be ASCII if the class is one of bytes. -/
def classChar (flags : Flags) (c : Char) : Except Fault Char :=
  if flags.unicode || c.toNat < 128 then .ok c else .error .notText

/-- The next character behind a hyphen that decides whether the hyphen makes a range. Where blanks
do not count, they are passed over, and one sign of a comment with them; if nothing else is left,
the character right behind the hyphen decides. -/
def behindHyphen (flags : Flags) (cs : List Char) : Option Char :=
  if flags.ignoreBlanks then go false cs <|> cs.head? else cs.head?
where
  /-- The first character that counts, given whether the sign of a comment was passed over. -/
  go (inComment : Bool) : List Char → Option Char
    | [] => none
    | c :: cs =>
      if isBlank c then go inComment cs
      else if c = '#' ∧ !inComment then go true cs
      else some c

/-- Reads a character, a range or an escaped set of a class. -/
def classRange : Scan SetPiece := do
  let first ← classPrimitive
  skipIgnored
  let s ← get
  match s.rest with
  | [] => throw .unclosedClass
  | c :: behind =>
    let decisive := behindHyphen s.flags behind
    -- A hyphen before the bracket is a literal; two of them are a difference.
    if c ≠ '-' ∨ decisive = some ']' ∨ decisive = some '-' then
      match first with
      | .literal c _ => return .single (← classChar s.flags c)
      | .set set => return ⟨set, 0⟩
      | .assertion _ => throw .badEscape
    else
      advanceSkip
      if (← peek).isNone then throw .unclosedClass
      let last ← classPrimitive
      -- Both bounds are read before either is refused.
      let (low, _) ← rangeBound first
      let (high, _) ← rangeBound last
      if high < low then throw .emptyRange
      let low ← classChar s.flags low
      let high ← classChar s.flags high
      return ⟨.range low high, 0⟩

/-- Reads hyphens at the beginning of a class, which stand for themselves. -/
def leadingHyphens : Nat → Scan (List SetPiece)
  | 0 => return []
  | fuel + 1 => do
    match ← peek with
    | none => throw .unclosedClass
    | some c =>
      if c = '-' then
        advanceSkip
        return .single '-' :: (← leadingHyphens fuel)
      else return []

mutual

/-- Reads a class with its brackets. -/
def bracketClass : Nat → Scan SetPiece
  | 0 => throw .tooDeep
  | fuel + 1 => do
    advanceSkip
    let negated ←
      match ← peek with
      | none => throw .unclosedClass
      | some '^' =>
        advanceSkip
        pure true
      | some _ => pure false
    let hyphens ← leadingHyphens fuel
    let items ←
      if hyphens.isEmpty && (← peek) = some ']' then
        advanceSkip
        pure [.single ']']
      else pure hyphens
    let inner ← classItems fuel { items }
    closeClass (← get).flags negated inner

/-- Reads the items of a class up to its closing bracket. -/
def classItems : Nat → ClassState → Scan SetPiece
  | 0, _ => throw .tooDeep
  | fuel + 1, state => do
    skipIgnored
    let s ← get
    let operation (op : SetOp) : Scan SetPiece := do
      advance
      advance
      classItems fuel { pending := some (op, state.total s.flags), items := [] }
    match s.rest with
    | [] => throw .unclosedClass
    | '[' :: _ =>
      match ← asciiClass? with
      | some named => classItems fuel { state with items := named :: state.items }
      | none =>
        let nested ← bracketClass fuel
        classItems fuel { state with items := nested :: state.items }
    | ']' :: _ =>
      advance
      return state.total s.flags
    | '&' :: '&' :: _ => operation .inter
    | '-' :: '-' :: _ => operation .diff
    | '~' :: '~' :: _ => operation .symmDiff
    | _ =>
      let item ← classRange
      classItems fuel { state with items := item :: state.items }

end

/-! ## Repetitions -/

/-- Passes over the mark of a lazy repetition, and tells whether the repetition is lazy. -/
def lazyMark : Scan Bool := do
  let isMarked := (← peek) == some '?'
  if isMarked then advance
  return isMarked != (← get).flags.swapLazy

/-- Passes over blanks, which never count around the numbers of a repetition. -/
def skipBlanks : Scan Unit :=
  modify fun s ↦ { s with rest := s.rest.dropWhile isBlank }

def countDigits : Nat → Scan (List Char)
  | 0 => return []
  | fuel + 1 => do
    match ← peek with
    | none => return []
    | some c =>
      if c.isDigit then
        advanceSkip
        return c :: (← countDigits fuel)
      else return []

/-- Reads a count, which must fit 32 bits. -/
def count : Scan Nat := do
  skipBlanks
  let digits ← countDigits (← get).rest.length
  skipBlanks
  skipIgnored
  if digits.isEmpty then throw .badCount
  let n := Text.foldDigits 0 digits
  if Nat.pow 2 32 ≤ n then throw .badCount
  return n

/-- How often an expression is repeated. -/
structure Bounds where
  min : Nat
  max : Option Nat

/-- Reads a counted repetition. -/
def countedBounds : Scan Bounds := do
  advanceSkip
  let min ← count
  match ← peek with
  | some ',' =>
    advanceSkip
    if (← peek) = some '}' then
      advanceSkip
      return ⟨min, none⟩
    else
      let max ← count
      expect '}' .badCount
      skipIgnored
      if max < min then throw .badCount
      return ⟨min, some max⟩
  | some '}' =>
    advanceSkip
    return ⟨min, some min⟩
  | _ => throw .badCount

/-! ## Groups -/

/-- Whether a character may stand in the name of a group. -/
def isGroupNameChar (first : Bool) (c : Char) : Bool :=
  let letter := Unicode.Newest.alphabetic.contains c
  let numeric := Unicode.Newest.numeric.contains c
  c == '_' || letter || (!first && (numeric || c == '.' || c == '[' || c == ']'))

/-- Reads the name of a group up to its closing bracket. -/
def groupName : Scan Unit := do
  let s ← get
  let name := s.rest.takeWhile (· != '>')
  match s.rest.dropWhile (· != '>') with
  | [] => throw .badGroupName
  | _ :: rest =>
    let valid :=
      match name with
      | [] => false
      | c :: cs => isGroupNameChar true c && cs.all (isGroupNameChar false)
    let text := String.ofList name
    if !valid || s.names.contains text then throw .badGroupName
    set { s with rest, names := text :: s.names }

def Flags.put (flags : Flags) (flag : Char) (on : Bool) : Option Flags :=
  match flag with
  | 'i' => some { flags with ignoreCase := on }
  | 'm' => some { flags with multiLine := on }
  | 's' => some { flags with dotAll := on }
  | 'u' => some { flags with unicode := on }
  | 'R' => some { flags with crlf := on }
  | 'x' => some { flags with ignoreBlanks := on }
  | 'U' => some { flags with swapLazy := on }
  | _ => none

/-- Puts the flags of a list into effect; flags behind a hyphen are turned off. -/
def Flags.putAll (flags : Flags) : List Char → Bool → Option Flags
  | [], _ => some flags
  | c :: cs, on =>
    if c = '-' then flags.putAll cs false else (flags.put c on).bind (·.putAll cs on)

/-- Reads flags up to a colon or a closing parenthesis: the flags then in effect, and whether a
group follows. -/
def groupFlags : Scan (Flags × Bool) := do
  let s ← get
  let items := s.rest.takeWhile fun c ↦ c != ':' && c != ')'
  match s.rest.drop items.length with
  | [] => throw .badFlags
  | mark :: rest =>
    -- The hyphen is an item as well, so it may occur only once.
    if !items.Nodup ∨ items.getLast? = some '-' then throw .badFlags
    if items.isEmpty && mark == ')' then throw .nothingToRepeat
    match s.flags.putAll items true with
    | none => throw .badFlags
    | some flags =>
      set { s with rest }
      return (flags, mark == ':')

/-! ## Expressions -/

def dotSet (flags : Flags) : Except Fault CharSet :=
  if !flags.unicode then .error .notText
  else if flags.dotAll then .ok .all
  else if flags.crlf then .ok ((CharSet.single '\n').union (.single '\r')).compl
  else .ok (CharSet.single '\n').compl

/-- Reads a character, an escape or a sign outside of classes and groups. -/
def primitive : Scan Piece := do
  let flags := (← get).flags
  match ← peek with
  | some '\\' => (← escape).toPiece flags
  | some c =>
    advance
    let primitive : Primitive ←
      match c with
      | '.' => pure (.set (← dotSet flags))
      | '^' => pure (.assertion (if flags.multiLine then .lineStart flags.crlf else .textStart))
      | '$' => pure (.assertion (if flags.multiLine then .lineEnd flags.crlf else .textEnd))
      | c => pure (.literal c false)
    primitive.toPiece flags
  | none => throw .unclosedGroup

/-- An item of a sequence: a piece, or a setting of flags. -/
abbrev Item := Option Piece

def maxPieceHeight (pieces : List Piece) : Nat :=
  pieces.foldl (fun h piece ↦ max h piece.height) 0

/-- The sequence of items, given last item first. -/
def sequenceOf (items : List Item) : Scan Piece :=
  match items with
  | [] => return .empty
  | [item] => return item.getD .empty
  | items =>
    let pieces := items.reverse.reduceOption
    Piece.wrap (.concat (pieces.map (·.regex))) (maxPieceHeight pieces)

def choiceOf (branches : List Piece) : Scan Piece :=
  match branches with
  | [branch] => return branch
  | branches => Piece.wrap (.alternation (branches.map (·.regex))) (maxPieceHeight branches)

def repeatLast (items : List Item) (bounds : Bounds) : Scan (List Item) := do
  let isLazy ← lazyMark
  match items with
  | some piece :: items =>
    let repeated ←
      Piece.wrap (.repetition piece.regex bounds.min bounds.max isLazy) piece.height
    return some repeated :: items
  | _ => throw .nothingToRepeat

mutual

def branches : Nat → Scan (List Piece)
  | 0 => throw .tooDeep
  | fuel + 1 => do
    let first ← sequenceItems fuel []
    if (← peek) = some '|' then
      advance
      return first :: (← branches fuel)
    else return [first]

/-- Reads the items of a sequence behind those that are given. -/
def sequenceItems : Nat → List Item → Scan Piece
  | 0, _ => throw .tooDeep
  | fuel + 1, items => do
    skipIgnored
    match ← peek with
    | none | some ')' | some '|' => sequenceOf items
    | some '(' =>
      let item ← group fuel
      sequenceItems fuel (item :: items)
    | some '[' =>
      let set ← bracketClass fuel
      sequenceItems fuel (some set.toPiece :: items)
    | some '?' =>
      advance
      sequenceItems fuel (← repeatLast items ⟨0, some 1⟩)
    | some '*' =>
      advance
      sequenceItems fuel (← repeatLast items ⟨0, none⟩)
    | some '+' =>
      advance
      sequenceItems fuel (← repeatLast items ⟨1, none⟩)
    | some '{' =>
      let bounds ← countedBounds
      sequenceItems fuel (← repeatLast items bounds)
    | some _ =>
      let piece ← primitive
      sequenceItems fuel (some piece :: items)

/-- Reads what an opening parenthesis begins: a group, or a setting of flags, which is no piece. -/
def group : Nat → Scan Item
  | 0 => throw .tooDeep
  | fuel + 1 => do
    advanceSkip
    let before := (← get).flags
    if ← acceptOneOf ["?=", "?!", "?<=", "?<!"] then throw .unsupported
    let isNamed ← acceptOneOf ["?P<", "?<"]
    if isNamed then groupName
    let isPlain ← if isNamed then pure false else acceptPart "?"
    let isGroup ←
      if isPlain then
        let (flags, isGroup) ← groupFlags
        modify fun s ↦ { s with flags }
        pure isGroup
      else pure true
    if !isGroup then return none
    let number := (← get).groups
    if !isPlain then modify fun s ↦ { s with groups := number + 1 }
    let inner ← choiceOf (← branches fuel)
    expect ')' .unclosedGroup
    -- Flags set inside of the group end with it.
    modify fun s ↦ { s with flags := before }
    return some (← Piece.wrap
      (if isPlain then inner.regex else .captured number inner.regex) inner.height)

end

def parse (pattern : String) : Except Fault Regex := do
  let cs := pattern.toList
  -- The reader goes at most three calls deeper for each character that it takes.
  let (piece, s) ← (do choiceOf (← branches (3 * cs.length + 3))).run { rest := cs }
  if !s.rest.isEmpty then throw .unopenedGroup
  else if Size.isTooLarge piece.regex then throw .tooLarge
  else return piece.regex

end FlowRouting.Regex
