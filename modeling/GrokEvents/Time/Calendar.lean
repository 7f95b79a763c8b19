/-
**Days, times of day and moments.**

The proleptic Gregorian calendar from year 1 to year 9999, ISO weeks, and the ISO 8601 text of a
moment.

* `isLeap_iff`: the leap years are those divisible by four, but of the centuries only every
  fourth.
-/

import GrokEvents.Text.Basic

namespace GrokEvents.Time

/-! ## Days -/

/-- A day of the calendar, or what is written like one. -/
structure Date where
  year : Nat
  month : Nat
  day : Nat
deriving DecidableEq, Repr

/-- Whether a year has a twenty-ninth of February. -/
def isLeap (year : Nat) : Bool :=
  year % 4 == 0 && (year % 100 != 0 || year % 400 == 0)

theorem isLeap_iff (year : Nat) :
    isLeap year = true ↔ year % 4 = 0 ∧ (year % 100 ≠ 0 ∨ year % 400 = 0) := by
  simp [isLeap]

/-- The number of days of a month. -/
def daysIn (year month : Nat) : Nat :=
  if month = 2 then if isLeap year then 29 else 28
  else if month = 4 || month = 6 || month = 9 || month = 11 then 30
  else 31

/-- What keeps a date from being a day of the calendar. -/
inductive DateFault where
  | year
  | month
  | day
deriving DecidableEq, Repr

namespace Date

/-- The first part of a date that is out of range. -/
def fault? (date : Date) : Option DateFault :=
  if date.year < 1 || 9999 < date.year then some .year
  else if date.month < 1 || 12 < date.month then some .month
  else if date.day < 1 || daysIn date.year date.month < date.day then some .day
  else none

/-- The number of days before a year, from the first of January of year 1. -/
def daysBeforeYear (year : Nat) : Nat :=
  let past := year - 1
  past * 365 + past / 4 - past / 100 + past / 400

/-- The day of a year that comes so many days after its first. -/
def ofDayOfYear (year : Nat) : (fuel month days : Nat) → Date
  | 0, month, days => ⟨year, month, days + 1⟩
  | fuel + 1, month, days =>
    if days < daysIn year month then ⟨year, month, days + 1⟩
    else ofDayOfYear year fuel (month + 1) (days - daysIn year month)

/-- The day that comes so many days after the first of January of a year, at most `fuel` years
later. -/
def ofDays : (fuel year days : Nat) → Date
  | 0, year, days => ofDayOfYear year 12 1 days
  | fuel + 1, year, days =>
    if days < daysBeforeYear (year + 1) - daysBeforeYear year then ofDayOfYear year 12 1 days
    else ofDays fuel (year + 1) (days - (daysBeforeYear (year + 1) - daysBeforeYear year))

/-- The weekday of the first of January, Monday being zero. -/
def firstWeekday (year : Nat) : Nat :=
  daysBeforeYear year % 7

/-- The number of weeks of an ISO year: one more than fifty-two when it starts on a Thursday, or in
a leap year on a Wednesday. -/
def weeksIn (year : Nat) : Nat :=
  if firstWeekday year = 3 || (firstWeekday year = 2 && isLeap year) then 53 else 52

/-- The day of an ISO week, Monday being day one. -/
def ofWeek? (year week weekday : Nat) : Option Date :=
  if year < 1 || week < 1 || weeksIn year < week || weekday < 1 || 7 < weekday then none
  else
    let first := firstWeekday year
    let back : Int := if first ≤ 3 then -(first : Int) else 7 - first
    let days : Int := back + ((week - 1) * 7 + (weekday - 1) : Nat)
    let length : Nat := if isLeap year then 366 else 365
    if days < 0 then some (ofDayOfYear (year - 1) 12 1
      ((if isLeap (year - 1) then 366 else 365) - days.natAbs))
    else if length ≤ days.toNat then some (ofDayOfYear (year + 1) 12 1 (days.toNat - length))
    else some (ofDayOfYear year 12 1 days.toNat)

/-- The text `YYYY-MM-DD`. -/
def iso (date : Date) : Text :=
  Text.padded 4 date.year ++ '-' :: Text.padded 2 date.month ++ '-' :: Text.padded 2 date.day

end Date

/-! ## Times of day -/

/-- A time of day to the microsecond. -/
structure TimeOfDay where
  hour : Nat := 0
  minute : Nat := 0
  second : Nat := 0
  microsecond : Nat := 0
deriving DecidableEq, Repr

/-- What keeps a time of day out of the day. -/
inductive TimeFault where
  | hour
  | minute
  | second
deriving DecidableEq, Repr

namespace TimeOfDay

/-- The first part of a time of day that is out of range. -/
def fault? (time : TimeOfDay) : Option TimeFault :=
  if 23 < time.hour then some .hour
  else if 59 < time.minute then some .minute
  else if 59 < time.second then some .second
  else none

/-- The text `hh:mm:ss`. -/
def isoSeconds (time : TimeOfDay) : Text :=
  Text.padded 2 time.hour ++ ':' :: Text.padded 2 time.minute ++ ':' :: Text.padded 2 time.second

/-- The text `hh:mm:ss`, with six places of a second unless they are zero. -/
def iso (time : TimeOfDay) : Text :=
  time.isoSeconds ++
    if time.microsecond = 0 then [] else '.' :: Text.padded 6 time.microsecond

end TimeOfDay

/-! ## Moments -/

/-- A date and time of day, perhaps with an offset from universal time in microseconds. -/
structure Moment where
  date : Date
  time : TimeOfDay
  offset : Option Int := none
deriving DecidableEq, Repr

/-- An offset's text: a sign, hours and minutes, then seconds and microseconds where there are any.
-/
def isoOffset (offset : Int) : Text :=
  let microseconds := offset.natAbs
  let seconds := microseconds / 1000000
  let left := microseconds % 1000000
  (if offset < 0 then '-' else '+') :: Text.padded 2 (seconds / 3600) ++
    ':' :: Text.padded 2 (seconds / 60 % 60) ++
    if seconds % 60 = 0 && left = 0 then []
    else ':' :: Text.padded 2 (seconds % 60) ++
      if left = 0 then [] else '.' :: Text.padded 6 left

namespace Moment

/-- The ISO 8601 text of a moment. -/
def iso (moment : Moment) : Text :=
  moment.date.iso ++ 'T' :: moment.time.iso ++ (moment.offset.map isoOffset).getD []

/-- The text of a moment of universal time with the milliseconds begun and the sign of the zone,
`YYYY-MM-DDThh:mm:ss.mmmZ`. -/
def stamp (moment : Moment) : Text :=
  moment.date.iso ++ 'T' :: moment.time.isoSeconds ++
    '.' :: Text.padded 3 (moment.time.microsecond / 1000) ++ ['Z']

end Moment

/-- A day has so many microseconds. -/
def microsecondsPerDay : Nat := 86400000000

/-- The moment of universal time so many microseconds after the start of 1970. -/
def Moment.sinceEpoch (microseconds : Nat) : Moment :=
  let days := microseconds / microsecondsPerDay
  let seconds := microseconds % microsecondsPerDay / 1000000
  ⟨Date.ofDays 8030 1970 days,
    ⟨seconds / 3600, seconds / 60 % 60, seconds % 60, microseconds % 1000000⟩, some 0⟩

end GrokEvents.Time
