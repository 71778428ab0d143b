/-!
# Dates and moments

A scalar of a document may be a calendar date, alone or with a time of day and an offset from
universal time.
-/

namespace ResourceGraph

/-- A date of the proleptic Gregorian calendar. -/
structure CalendarDate where
  year : Nat
  month : Nat
  day : Nat
deriving DecidableEq, Repr, Inhabited

/-- A time of day. -/
structure ClockTime where
  hour : Nat
  minute : Nat
  second : Nat
  microsecond : Nat
deriving DecidableEq, Repr, Inhabited

/-- A date with a time of day and, if known, its offset from universal time in minutes. -/
structure Moment where
  date : CalendarDate
  time : ClockTime
  offset : Option Int
deriving DecidableEq, Repr, Inhabited

/-- A number padded with zeros to a width. -/
def padded (width value : Nat) : String :=
  let digits := toString value
  String.ofList (List.replicate (width - digits.length) '0') ++ digits

namespace CalendarDate

/-- The date as year, month and day joined by hyphens. -/
def text (date : CalendarDate) : String :=
  padded 4 date.year ++ "-" ++ padded 2 date.month ++ "-" ++ padded 2 date.day

/-- Whether a year has a 29th of February. -/
def isLeapYear (year : Nat) : Bool :=
  year % 4 == 0 && (year % 100 != 0 || year % 400 == 0)

/-- The number of days of a month. -/
def daysInMonth (year month : Nat) : Nat :=
  if month == 2 then if isLeapYear year then 29 else 28
  else if month == 4 || month == 6 || month == 9 || month == 11 then 30
  else 31

/-- The number of days before a date, counted from the start of year one. -/
def dayNumber (date : CalendarDate) : Int :=
  let years := date.year - 1
  let before := (List.range (date.month - 1)).map fun month => daysInMonth date.year (month + 1)
  (years * 365 + years / 4 - years / 100 + years / 400 + before.foldl (· + ·) 0 + date.day : Nat)

end CalendarDate

namespace Moment

/-- An offset as a sign, hours and minutes. -/
def offsetText (offset : Int) : String :=
  (if offset < 0 then "-" else "+") ++ padded 2 (offset.natAbs / 60) ++ ":" ++
    padded 2 (offset.natAbs % 60)

/-- The moment as its date and its time joined by `separator`; the fraction of the second is written
when there is one. -/
def text (separator : String) (moment : Moment) : String :=
  let time := moment.time
  moment.date.text ++ separator ++ padded 2 time.hour ++ ":" ++ padded 2 time.minute ++ ":" ++
    padded 2 time.second ++
    (if time.microsecond = 0 then "" else "." ++ padded 6 time.microsecond) ++
    (moment.offset.map offsetText).getD ""

/-- The number of microseconds before a moment in its own clock. -/
def localMicroseconds (moment : Moment) : Int :=
  let time := moment.time
  (moment.date.dayNumber * 86400 + (time.hour * 3600 + time.minute * 60 + time.second : Nat))
    * 1000000 + time.microsecond

/-- Whether two moments are the same: with offsets they are compared in universal time, and a moment
with an offset differs from any without one. -/
def same (left right : Moment) : Bool :=
  match left.offset, right.offset with
  | none, none => left.localMicroseconds == right.localMicroseconds
  | some before, some after =>
    left.localMicroseconds - before * 60000000 == right.localMicroseconds - after * 60000000
  | _, _ => false

end Moment

end ResourceGraph
