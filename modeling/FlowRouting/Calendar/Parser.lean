import FlowRouting.Calendar.Basic
import FlowRouting.Text.Digits

/-!
# Reading dates and instants

A text is tried as RFC 3339, which is strict, and then against a list of layouts, which are not:
they skip blanks before each number and take numbers with fewer digits. The first form that takes
the whole text wins.
-/

namespace FlowRouting.Calendar

/-! ## Scanning -/

/-- Reads at least `atLeast` and at most `atMost` digits. -/
def scanDigits (atLeast atMost : Nat) (cs : List Char) : Option (Nat × List Char) :=
  let digits := (cs.take atMost).takeWhile Char.isDigit
  if digits.length < atLeast then none
  else some (Text.foldDigits 0 digits, cs.drop digits.length)

def scanChar (c : Char) : List Char → Option (List Char)
  | [] => none
  | c' :: cs => if c = c' then some cs else none

/-! ## RFC 3339 -/

/-- Reads a fraction of a second, if there is one, in nanoseconds; digits beyond the ninth are
passed over. -/
def scanFraction : List Char → Option (Nat × List Char)
  | '.' :: cs =>
    let (digits, rest) := Text.spanDigits cs
    if digits.isEmpty then none
    else
      let digits := digits.take 9
      some (Text.foldDigits 0 digits * Nat.pow 10 (9 - digits.length), rest)
  | cs => some (0, cs)

/-- Reads an offset from UTC in minutes. -/
def scanOffset : List Char → Option (Int × List Char)
  | [] => none
  | c :: cs =>
    if c = 'Z' ∨ c = 'z' then some (0, cs)
    else if c = '+' ∨ c = '-' ∨ c = '\u2212' then do
      let (hours, cs) ← scanDigits 2 2 cs
      let cs ← scanChar ':' cs
      let (minutes, cs) ← scanDigits 2 2 cs
      if hours < 24 ∧ minutes < 60 then
        let total : Int := hours * 60 + minutes
        return (if c = '+' then total else -total, cs)
      else none
    else none

/-- Reads a whole text as RFC 3339, where date and time may also be joined by a small letter or
one blank. -/
def parseRfc3339? (cs : List Char) : Option Instant := do
  let (year, cs) ← scanDigits 4 4 cs
  let cs ← scanChar '-' cs
  let (month, cs) ← scanDigits 2 2 cs
  let cs ← scanChar '-' cs
  let (day, cs) ← scanDigits 2 2 cs
  let cs ← scanChar 'T' cs <|> scanChar 't' cs <|> scanChar ' ' cs
  let (hour, cs) ← scanDigits 2 2 cs
  let cs ← scanChar ':' cs
  let (minute, cs) ← scanDigits 2 2 cs
  let cs ← scanChar ':' cs
  let (second, cs) ← scanDigits 2 2 cs
  let (nanosecond, cs) ← scanFraction cs
  let (offset, cs) ← scanOffset cs
  let date ← Date.of? year month day
  let time ← TimeOfDay.of? hour minute second nanosecond
  -- The text gives the local time, which is ahead of UTC by the offset.
  if cs.isEmpty then Instant.behind? ⟨date, time⟩ offset else none

/-! ## Layouts -/

/-- A part of a layout. -/
inductive Part where
  | year
  | month
  | day
  | hour
  | minute
  | second
  | char (c : Char)
  /-- Any number of blanks. -/
  | blanks

/-- The numbers that a layout has read. -/
structure Reading where
  year : Int := 0
  month : Nat := 0
  day : Nat := 0
  hour : Nat := 0
  minute : Nat := 0
  second : Nat := 0

/-- Reads a year: up to four digits, or any number of them behind a sign. -/
def scanYear (cs : List Char) : Option (Int × List Char) :=
  match cs with
  | '-' :: cs => (scanDigits 1 cs.length cs).map fun p ↦ (-(p.1 : Int), p.2)
  | '+' :: cs => (scanDigits 1 cs.length cs).map fun p ↦ (p.1, p.2)
  | cs => (scanDigits 1 4 cs).map fun p ↦ (p.1, p.2)

def Part.scan (part : Part) (r : Reading) (cs : List Char) : Option (Reading × List Char) :=
  let two := scanDigits 1 2 (Text.trimLeft cs)
  match part with
  | .year => (scanYear (Text.trimLeft cs)).map fun p ↦ ({ r with year := p.1 }, p.2)
  | .month => two.map fun p ↦ ({ r with month := p.1 }, p.2)
  | .day => two.map fun p ↦ ({ r with day := p.1 }, p.2)
  | .hour => two.map fun p ↦ ({ r with hour := p.1 }, p.2)
  | .minute => two.map fun p ↦ ({ r with minute := p.1 }, p.2)
  | .second => two.map fun p ↦ ({ r with second := p.1 }, p.2)
  | .char c => (scanChar c cs).map fun rest ↦ (r, rest)
  | .blanks => some (r, Text.trimLeft cs)

def scanLayout (layout : List Part) (cs : List Char) : Option Reading := do
  let (r, rest) ← layout.foldlM (fun (p : Reading × List Char) part ↦ part.scan p.1 p.2) ({}, cs)
  if rest.isEmpty then some r else none

/-- Year, month and day with a character between them. -/
def dateLayout (c : Char) : List Part :=
  [.year, .char c, .month, .char c, .day]

/-- The layouts with a time of day, in the order in which they are tried. -/
def instantLayouts : List (List Part) :=
  let date := dateLayout '-'
  let minutes := [.hour, .char ':', .minute]
  let seconds := minutes ++ [.char ':', .second]
  [date ++ .char 'T' :: seconds, date ++ .blanks :: seconds,
    date ++ .char 'T' :: minutes, date ++ .blanks :: minutes]

/-- The layouts of a date alone, in the order in which they are tried. -/
def dateLayouts : List (List Part) :=
  [dateLayout '-', dateLayout '/']

def Reading.date? (r : Reading) : Option Date :=
  Date.of? r.year r.month r.day

def Reading.instant? (r : Reading) : Option Instant := do
  return ⟨← r.date?, ← TimeOfDay.of? r.hour r.minute r.second 0⟩

end FlowRouting.Calendar

namespace FlowRouting

open Calendar

/-- Reads a text as a point in time; blanks around it are ignored. -/
def Timestamp.parse? (s : String) : Option Timestamp :=
  let cs := Text.trim s.toList
  ((parseRfc3339? cs).map fun i ↦ ⟨i, false⟩)
    <|> instantLayouts.findSome? (fun layout ↦
      ((scanLayout layout cs).bind Reading.instant?).map fun i ↦ ⟨i, false⟩)
    <|> dateLayouts.findSome? (fun layout ↦
      ((scanLayout layout cs).bind Reading.date?).map Timestamp.ofDate)

end FlowRouting
