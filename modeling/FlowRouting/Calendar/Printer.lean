import FlowRouting.Calendar.Basic

/-!
# Writing dates and instants

A year has at least four digits, and a sign as soon as it is outside of the years 0 to 9999. A
fraction of a second is written with three, six or nine digits, or not at all.
-/

namespace FlowRouting

/-- The digits of a number, with zeros in front up to a width. -/
def padDigits (width n : Nat) : List Char :=
  let digits := Nat.toDigits 10 n
  List.replicate (width - digits.length) '0' ++ digits

def writeYear (year : Int) : List Char :=
  if 0 ≤ year ∧ year ≤ 9999 then padDigits 4 year.natAbs
  else (if year < 0 then '-' else '+') :: padDigits 4 year.natAbs

/-- A date as year, month and day with hyphens. -/
def Date.write (d : Date) : List Char :=
  writeYear d.year ++ '-' :: padDigits 2 d.month ++ '-' :: padDigits 2 d.day

def writeFraction (nanosecond : Nat) : List Char :=
  if nanosecond = 0 then []
  else if nanosecond % 1000000 = 0 then '.' :: padDigits 3 (nanosecond / 1000000)
  else if nanosecond % 1000 = 0 then '.' :: padDigits 6 (nanosecond / 1000)
  else '.' :: padDigits 9 nanosecond

/-- A time of day with colons. -/
def TimeOfDay.write (t : TimeOfDay) : List Char :=
  padDigits 2 t.hour ++ ':' :: padDigits 2 t.minute ++ ':' :: padDigits 2 t.second ++
    writeFraction t.nanosecond

/-- An instant with a blank between date and time. -/
def Instant.toText (i : Instant) : String :=
  String.ofList (i.date.write ++ ' ' :: i.time.write)

/-- An instant as in RFC 3339, with the offset of UTC. -/
def Instant.toRfc3339 (i : Instant) : String :=
  String.ofList (i.date.write ++ 'T' :: i.time.write ++ ['+', '0', '0', ':', '0', '0'])

/-- A date alone. -/
def Date.toText (d : Date) : String :=
  String.ofList d.write

end FlowRouting
