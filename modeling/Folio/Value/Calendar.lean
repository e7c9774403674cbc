import Folio.Number.Numeral

/-!
Contract: days and moments of the calendar, and lengths of time.

Owns: dates and times of day that exist, the error that names what is wrong with one that does not; durations;
the least and the greatest of each, with the step from one to the next; and their texts.
-/

namespace Folio

open Folio.Number

structure Date where
  year : Nat
  month : Nat
  day : Nat
deriving DecidableEq, Repr

structure Moment where
  date : Date
  hour : Nat
  minute : Nat
  second : Nat
  microsecond : Nat
deriving DecidableEq, Repr

/-- A length of time: whole days, which may be negative, and what is left of a day. So equal lengths are equal
values. -/
structure Duration where
  days : Int
  seconds : Nat
  microseconds : Nat
  seconds_lt : seconds < 86400 := by decide
  microseconds_lt : microseconds < 1000000 := by decide
deriving DecidableEq, Repr

/-! ## Least and greatest -/

namespace Duration

def ofDays (days : Int) : Duration :=
  { days := days, seconds := 0, microseconds := 0 }

def oneMicrosecond : Duration :=
  { days := 0, seconds := 0, microseconds := 1 }

def least : Duration := ofDays (-999999999)

def greatest : Duration :=
  { days := 999999999, seconds := 86399, microseconds := 999999 }

end Duration

def Date.least : Date := ⟨1, 1, 1⟩

def Date.greatest : Date := ⟨9999, 12, 31⟩

def Moment.least : Moment := ⟨.least, 0, 0, 0, 0⟩

def Moment.greatest : Moment := ⟨.greatest, 23, 59, 59, 999999⟩

/-! ## Dates that exist -/

inductive CalendarError where
  | year (given : Nat)
  | month
  | day
  | hour
  | minute
  | second
deriving DecidableEq, Repr

def CalendarError.message : CalendarError → String
  | .year given => "year " ++ wholeText given ++ " is out of range"
  | .month => "month must be in 1..12"
  | .day => "day is out of range for month"
  | .hour => "hour must be in 0..23"
  | .minute => "minute must be in 0..59"
  | .second => "second must be in 0..59"

def isLeap (year : Nat) : Bool :=
  year % 4 == 0 && (year % 100 != 0 || year % 400 == 0)

def daysIn (year month : Nat) : Nat :=
  if month = 2 then if isLeap year then 29 else 28
  else if month = 4 ∨ month = 6 ∨ month = 9 ∨ month = 11 then 30
  else 31

/-- The date of these numbers; the year is judged first, the day last. -/
def Date.of (year month day : Nat) : Except CalendarError Date :=
  if year < 1 ∨ 9999 < year then .error (.year year)
  else if month < 1 ∨ 12 < month then .error .month
  else if day < 1 ∨ daysIn year month < day then .error .day
  else .ok ⟨year, month, day⟩

def Moment.of (year month day hour minute second microsecond : Nat) :
    Except CalendarError Moment := do
  let date ← Date.of year month day
  if 23 < hour then throw .hour
  if 59 < minute then throw .minute
  if 59 < second then throw .second
  return ⟨date, hour, minute, second, microsecond⟩

/-- The day after a date, if the calendar has one. -/
def Date.next? (date : Date) : Option Date :=
  if date.day < daysIn date.year date.month then some { date with day := date.day + 1 }
  else if date.month < 12 then some ⟨date.year, date.month + 1, 1⟩
  else if date.year < 9999 then some ⟨date.year + 1, 1, 1⟩
  else none

/-- The moment a second later, if its day exists. -/
def Moment.next? (moment : Moment) : Option Moment :=
  if moment.second < 59 then some { moment with second := moment.second + 1 }
  else if moment.minute < 59 then some { moment with minute := moment.minute + 1, second := 0 }
  else if moment.hour < 23 then some { moment with hour := moment.hour + 1, minute := 0, second := 0 }
  else moment.date.next?.map fun date => ⟨date, 0, 0, 0, moment.microsecond⟩

/-! ## Texts -/

/-- The digits of a number with noughts in front up to a width. -/
def padded (width number : Nat) : String :=
  let digits := naturalDigits number
  String.ofList (List.replicate (width - digits.length) '0' ++ digits)

def Date.text (date : Date) : String :=
  padded 4 date.year ++ "-" ++ padded 2 date.month ++ "-" ++ padded 2 date.day

/-- Microseconds are written only if there are any. -/
def Moment.text (moment : Moment) : String :=
  moment.date.text ++ " " ++ padded 2 moment.hour ++ ":" ++ padded 2 moment.minute ++ ":" ++
    padded 2 moment.second ++
    (if moment.microsecond = 0 then "" else "." ++ padded 6 moment.microsecond)

/-- Days are written only if there are any, as microseconds are. -/
def Duration.text (duration : Duration) : String :=
  (if duration.days = 0 then ""
    else wholeText duration.days ++ (if duration.days.natAbs = 1 then " day, " else " days, ")) ++
    wholeText (Int.ofNat (duration.seconds / 3600)) ++ ":" ++ padded 2 (duration.seconds / 60 % 60) ++ ":" ++
    padded 2 (duration.seconds % 60) ++
    (if duration.microseconds = 0 then "" else "." ++ padded 6 duration.microseconds)

end Folio
