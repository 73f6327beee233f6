/-!
# Calendar dates and instants

Dates are those of the proleptic Gregorian calendar, within a bounded range of years, and instants
are dates with a time of day in UTC. A leap second is second 60 of any minute, so it orders behind
second 59 and before the next minute without a special case: every order here is lexicographic.
-/

namespace FlowRouting

/-! ## Dates -/

def minYear : Int :=
  -262143

def maxYear : Int :=
  262142

/-- Whether a year has a 29th of February. -/
def isLeapYear (year : Int) : Bool :=
  year % 4 == 0 && (year % 100 != 0 || year % 400 == 0)

def daysInMonth (year : Int) (month : Nat) : Nat :=
  if month = 2 then (if isLeapYear year then 29 else 28)
  else if month = 4 ∨ month = 6 ∨ month = 9 ∨ month = 11 then 30
  else 31

/-- Year, month and day name a day of the calendar. -/
def IsDate (year : Int) (month day : Nat) : Prop :=
  minYear ≤ year ∧ year ≤ maxYear ∧ 1 ≤ month ∧ month ≤ 12 ∧ 1 ≤ day ∧ day ≤ daysInMonth year month

instance (year : Int) (month day : Nat) : Decidable (IsDate year month day) :=
  inferInstanceAs (Decidable (_ ∧ _))

/-- A day of the calendar. -/
structure Date where
  year : Int
  month : Nat
  day : Nat
  isDate : IsDate year month day
deriving DecidableEq

namespace Date

/-- The day with a year, a month and a day of the month, if there is one. -/
def of? (year : Int) (month day : Nat) : Option Date :=
  if h : IsDate year month day then some ⟨year, month, day, h⟩ else none

/-- The day after, unless the calendar ends. -/
def next? (d : Date) : Option Date :=
  if d.day < daysInMonth d.year d.month then of? d.year d.month (d.day + 1)
  else if d.month < 12 then of? d.year (d.month + 1) 1
  else of? (d.year + 1) 1 1

/-- The day before, unless the calendar begins. -/
def previous? (d : Date) : Option Date :=
  if 1 < d.day then of? d.year d.month (d.day - 1)
  else if 1 < d.month then of? d.year (d.month - 1) (daysInMonth d.year (d.month - 1))
  else of? (d.year - 1) 12 31

/-- Days compare by year, then by month, then by day of the month. -/
def compare (a b : Date) : Ordering :=
  (Ord.compare a.year b.year).then ((Ord.compare a.month b.month).then (Ord.compare a.day b.day))

/-- The number of days from the first of January 1970. -/
def dayNumber (d : Date) : Int :=
  let before := d.year - 1
  let months := (List.range (d.month - 1)).map fun m ↦ daysInMonth d.year (m + 1)
  let days := months.foldr (· + ·) d.day
  365 * before + before / 4 - before / 100 + before / 400 + days - 719163

end Date

/-! ## Instants -/

/-- The parts of a time of day are in their ranges. -/
def IsTime (hour minute second nanosecond : Nat) : Prop :=
  hour < 24 ∧ minute < 60 ∧ second ≤ 60 ∧ nanosecond < Nat.pow 10 9

instance (hour minute second nanosecond : Nat) :
    Decidable (IsTime hour minute second nanosecond) :=
  inferInstanceAs (Decidable (_ ∧ _))

/-- A time of day; second 60 is a leap second. -/
structure TimeOfDay where
  hour : Nat
  minute : Nat
  second : Nat
  nanosecond : Nat
  isTime : IsTime hour minute second nanosecond
deriving DecidableEq

namespace TimeOfDay

/-- The time of day with these parts, if they are in their ranges. -/
def of? (hour minute second nanosecond : Nat) : Option TimeOfDay :=
  if h : IsTime hour minute second nanosecond then some ⟨hour, minute, second, nanosecond, h⟩
  else none

def midnight : TimeOfDay :=
  ⟨0, 0, 0, 0, by decide⟩

/-- Times of day compare part by part. -/
def compare (a b : TimeOfDay) : Ordering :=
  (Ord.compare a.hour b.hour).then
    ((Ord.compare a.minute b.minute).then
      ((Ord.compare a.second b.second).then (Ord.compare a.nanosecond b.nanosecond)))

end TimeOfDay

/-- An instant in UTC. -/
structure Instant where
  date : Date
  time : TimeOfDay
deriving DecidableEq

namespace Instant

/-- Instants compare by date, then by time of day. -/
def compare (a b : Instant) : Ordering :=
  (a.date.compare b.date).then (a.time.compare b.time)

/-- The number of seconds from the beginning of 1970; a leap second counts as the one before. -/
def unixSeconds (i : Instant) : Int :=
  i.date.dayNumber * 86400 + i.time.hour * 3600 + i.time.minute * 60 + min i.time.second 59

/-- The instant that a clock shows which is ahead by a number of minutes, less than a day. -/
def behind? (i : Instant) (minutes : Int) : Option Instant := do
  let total := (i.time.hour * 60 + i.time.minute : Int) - minutes
  let date ←
    if total < 0 then i.date.previous?
    else if 1440 ≤ total then i.date.next?
    else some i.date
  let within := (total % 1440).toNat
  let time ← TimeOfDay.of? (within / 60) (within % 60) i.time.second i.time.nanosecond
  return ⟨date, time⟩

end Instant

/-- A point in time as a text gives it: a whole day, or an instant. -/
structure Timestamp where
  instant : Instant
  /-- No time of day was given. -/
  dateOnly : Bool
deriving DecidableEq

namespace Timestamp

/-- A whole day. -/
def ofDate (date : Date) : Timestamp :=
  ⟨⟨date, .midnight⟩, true⟩

/-- Two instants compare as instants; as soon as one side is a whole day, days are compared. -/
def compare (a b : Timestamp) : Ordering :=
  if a.dateOnly || b.dateOnly then a.instant.date.compare b.instant.date
  else a.instant.compare b.instant

end Timestamp

end FlowRouting
