/-! # Timestamps

A timestamp is a date of the proleptic Gregorian calendar with a time of day to the nanosecond and
no time zone.  In a leap second the nanosecond count is a whole second or more.  It can follow any
second and is written as the one after it, so as second 60 after second 59: the only one that is
made from given numbers (`Timestamp.ofMoment?`) or read from a text.  `Moment.dateAndTime` writes
whole seconds; `Moment.precise` shows the fraction as well. -/

namespace SqlBuilder

/-- Whether a year of the Gregorian calendar has a 29th of February. -/
def isLeapYear (year : Int) : Bool :=
  year % 4 = 0 && (year % 100 ≠ 0 || year % 400 = 0)

/-- The number of days of a month. -/
def daysInMonth (year : Int) (month : Nat) : Nat :=
  if month = 2 then (if isLeapYear year then 29 else 28)
  else if month = 4 ∨ month = 6 ∨ month = 9 ∨ month = 11 then 30
  else 31

/-- A date and a time of day as seven numbers. -/
structure Moment where
  /-- The year, with year 0 before year 1. -/
  year : Int
  /-- The month, from 1. -/
  month : Nat
  /-- The day of the month, from 1. -/
  day : Nat
  /-- The hour, from 0. -/
  hour : Nat
  /-- The minute, from 0. -/
  minute : Nat
  /-- The second, from 0 to 59. -/
  second : Nat
  /-- The nanosecond; from one thousand million on in a leap second. -/
  nanosecond : Nat
deriving Repr, DecidableEq

/-- The first year that a timestamp can have. -/
def firstYear : Int := -262143

/-- The last year that a timestamp can have. -/
def lastYear : Int := 262142

/-- The nanoseconds of one second. -/
def nanosPerSecond : Nat := 1000000000

/-- Whether seven numbers name a day of the calendar and a time of that day. -/
def Moment.InRange (m : Moment) : Prop :=
  (firstYear ≤ m.year ∧ m.year ≤ lastYear) ∧ (1 ≤ m.month ∧ m.month ≤ 12) ∧
    (1 ≤ m.day ∧ m.day ≤ daysInMonth m.year m.month) ∧ m.hour < 24 ∧ m.minute < 60 ∧
    m.second < 60 ∧ m.nanosecond < 2 * nanosPerSecond

instance (m : Moment) : Decidable m.InRange := by
  unfold Moment.InRange
  infer_instance

/-- Whether a moment is in a leap second only if that follows second 59. -/
def Moment.LeapsAfterLast (m : Moment) : Prop := nanosPerSecond ≤ m.nanosecond → m.second = 59

instance (m : Moment) : Decidable m.LeapsAfterLast := by
  unfold Moment.LeapsAfterLast
  infer_instance

/-- A date and a time of day that exist. -/
structure Timestamp extends Moment where
  /-- The numbers are in range. -/
  inRange : toMoment.InRange
deriving DecidableEq

/-- The timestamp with the given numbers, if they are in range and in no leap second but the one
after second 59. -/
def Timestamp.ofMoment? (m : Moment) : Option Timestamp :=
  if h : m.InRange ∧ m.LeapsAfterLast then some ⟨m, h.1⟩ else none

/-- A timestamp's own numbers give it back, unless it is in another leap second. -/
theorem Timestamp.ofMoment?_toMoment (t : Timestamp) (h : t.LeapsAfterLast) :
    Timestamp.ofMoment? t.toMoment = some t :=
  dif_pos ⟨t.inRange, h⟩

/-! ## Writing -/

/-- A whole number with zeros in front up to a width. -/
def zeroPadded (width n : Nat) : String :=
  let digits := Nat.toDigits 10 n
  String.ofList (List.replicate (width - digits.length) '0' ++ digits)

/-- A year: four digits, with a sign in front if it is negative or has more than four. -/
def yearText (year : Int) : String :=
  if year < 0 then "-" ++ zeroPadded 4 year.natAbs
  else if 9999 < year then "+" ++ zeroPadded 4 year.natAbs
  else zeroPadded 4 year.natAbs

/-- The second as it is written: a leap second is the one after its second. -/
def Moment.shownSecond (m : Moment) : Nat := m.second + m.nanosecond / nanosPerSecond

/-- Date and time to the whole second, with a separator between them. -/
def Moment.dateAndTime (m : Moment) (separator : String) : String :=
  yearText m.year ++ "-" ++ zeroPadded 2 m.month ++ "-" ++ zeroPadded 2 m.day ++ separator
    ++ zeroPadded 2 m.hour ++ ":" ++ zeroPadded 2 m.minute ++ ":" ++ zeroPadded 2 m.shownSecond

/-- The fraction of the second in three, six or nine digits, as many as it needs, or nothing. -/
def Moment.fraction (m : Moment) : String :=
  let nanos := m.nanosecond % nanosPerSecond
  if nanos = 0 then ""
  else if nanos % 1000000 = 0 then "." ++ zeroPadded 3 (nanos / 1000000)
  else if nanos % 1000 = 0 then "." ++ zeroPadded 6 (nanos / 1000)
  else "." ++ zeroPadded 9 nanos

/-- Date and time with every digit of the fraction. -/
def Moment.precise (m : Moment) : String := m.dateAndTime "T" ++ m.fraction

end SqlBuilder
