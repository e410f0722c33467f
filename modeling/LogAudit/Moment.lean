/-! # Moments

A date of the Gregorian calendar with a time of day. A moment is made from numbers that are checked in
order: year, month, day, hour, minute, second, microsecond. -/

namespace LogAudit
set_option autoImplicit false

/-- A date and a time of day, to the second. -/
structure Moment where
  year : Nat
  month : Nat
  day : Nat
  hour : Nat := 0
  minute : Nat := 0
  second : Nat := 0
deriving Repr, DecidableEq

namespace Moment

/-! ## The calendar -/

/-- Whether a year has a leap day. -/
def isLeapYear (year : Nat) : Bool :=
  year % 4 == 0 && (year % 100 != 0 || year % 400 == 0)

/-- The number of days of a month. -/
def daysIn (year month : Nat) : Nat :=
  if month == 2 then (if isLeapYear year then 29 else 28)
  else if month == 4 || month == 6 || month == 9 || month == 11 then 30
  else 31

/-- Why numbers make no moment. -/
inductive Fault
  | tooLarge
  | tooSmall
  | year (given : Int)
  | month
  | day
  | hour
  | minute
  | second
  | microsecond
deriving Repr, DecidableEq

/-- The words for a fault. -/
def Fault.message : Fault → String
  | tooLarge => "signed integer is greater than maximum"
  | tooSmall => "signed integer is less than minimum"
  | year given => s!"year {given} is out of range"
  | month => "month must be in 1..12"
  | day => "day is out of range for month"
  | hour => "hour must be in 0..23"
  | minute => "minute must be in 0..59"
  | second => "second must be in 0..59"
  | microsecond => "microsecond must be in 0..999999"

/-- Checks that a number has 32 bits. -/
def checkSize (number : Int) : Except Fault Unit :=
  if number ≥ Int.pow 2 31 then .error .tooLarge
  else if number < -Int.pow 2 31 then .error .tooSmall
  else .ok ()

/-- A number between two bounds. -/
def checkRange (least most : Nat) (number : Int) (fault : Fault) : Except Fault Nat :=
  if (least : Int) ≤ number && number ≤ most then .ok number.toNat else .error fault

/-- Makes a moment from year, month and day and, as far as they are given, hour, minute, second and
microsecond. The size of all numbers is checked before the range of each. -/
def ofNumbers (numbers : List Int) : Except Fault Moment := do
  numbers.forM checkSize
  let number (place : Nat) : Int := numbers.getD place 0
  let year ← checkRange 1 9999 (number 0) (.year (number 0))
  let month ← checkRange 1 12 (number 1) .month
  let day ← checkRange 1 (daysIn year month) (number 2) .day
  let hour ← checkRange 0 23 (number 3) .hour
  let minute ← checkRange 0 59 (number 4) .minute
  let second ← checkRange 0 59 (number 5) .second
  let _ ← checkRange 0 999999 (number 6) .microsecond
  return { year, month, day, hour, minute, second }

/-- The moment that is a number of seconds after the start of 1970. Years are counted from the first of
March, so that a leap day is the last day of its year. -/
def ofSeconds (seconds : Nat) : Moment :=
  let days := seconds / 86400 + 719468
  let inEra := days % 146097
  let yearOfEra := (inEra - inEra / 1460 + inEra / 36524 - inEra / 146096) / 365
  let dayOfYear := inEra - (365 * yearOfEra + yearOfEra / 4 - yearOfEra / 100)
  let shifted := (5 * dayOfYear + 2) / 153
  let month := if shifted < 10 then shifted + 3 else shifted - 9
  { year := days / 146097 * 400 + yearOfEra + (if month ≤ 2 then 1 else 0)
    month
    day := dayOfYear - (153 * shifted + 2) / 5 + 1
    hour := seconds / 3600 % 24
    minute := seconds / 60 % 60
    second := seconds % 60 }

/-! ## Texts -/

/-- A number with two digits at least. -/
def twoDigits (number : Nat) : String :=
  if number < 10 then s!"0{number}" else toString number

/-- Year, month and day with dashes between them. The year is not filled up. -/
def dateText (moment : Moment) : String :=
  s!"{moment.year}-{twoDigits moment.month}-{twoDigits moment.day}"

/-- Hour, minute and second with a text between them. -/
def timeText (between : String) (moment : Moment) : String :=
  between.intercalate [twoDigits moment.hour, twoDigits moment.minute, twoDigits moment.second]

end Moment

end LogAudit
