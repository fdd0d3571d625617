import CallScript.Decimal.Layout

/-!
# Dates and times

Calendar dates of the years 1 to 9999, times of day with microseconds, and offsets from universal
time, with the two texts of each: the plain one and the one that names the parts.
-/

namespace CallScript
namespace Calendar

/-- A day of the proleptic Gregorian calendar. -/
structure Date where
  year : Nat
  month : Nat
  day : Nat
  deriving Repr, DecidableEq

/-- A date with a time of day and, if known, the seconds by which it is ahead of universal time. -/
structure Moment where
  date : Date
  hour : Nat
  minute : Nat
  second : Nat
  microsecond : Nat
  offset : Option Int
  deriving Repr, DecidableEq

/-- Leap years have a 29th of February. -/
def isLeap (year : Nat) : Bool :=
  year % 4 = 0 && (year % 100 ≠ 0 || year % 400 = 0)

/-- The number of days of a month. -/
def daysIn (year month : Nat) : Nat :=
  if month = 2 then
    if isLeap year then 29 else 28
  else if month = 4 || month = 6 || month = 9 || month = 11 then
    30
  else
    31

/-- The ways in which numbers fail to be a date or a time. -/
inductive Misfit where
  | year (n : Nat)
  | month
  | day
  | hour
  | minute
  | second
  | offset (seconds : Int)
  deriving Repr, DecidableEq

/-- A length of time in days and seconds, as its parts are named. -/
def spanText (seconds : Int) : String :=
  let days := Int.fdiv seconds 86400
  let rest := Int.fmod seconds 86400
  let parts :=
    (if days = 0 then [] else ["days=" ++ toString days]) ++
      (if rest = 0 then [] else ["seconds=" ++ toString rest])
  "datetime.timedelta(" ++
    (if parts.isEmpty then "0" else String.intercalate ", " parts) ++ ")"

/-- What is wrong, in words. -/
def Misfit.text : Misfit → String
  | .year n => "year " ++ toString n ++ " is out of range"
  | .month => "month must be in 1..12"
  | .day => "day is out of range for month"
  | .hour => "hour must be in 0..23"
  | .minute => "minute must be in 0..59"
  | .second => "second must be in 0..59"
  | .offset seconds =>
      "offset must be a timedelta strictly between -timedelta(hours=24) and " ++
        "timedelta(hours=24), not " ++ spanText seconds ++ "."

/-- The date with the given parts, which are checked from the year to the day. -/
def Date.make (year month day : Nat) : Except Misfit Date :=
  if year < 1 || 9999 < year then
    .error (.year year)
  else if month < 1 || 12 < month then
    .error .month
  else if day < 1 || daysIn year month < day then
    .error .day
  else
    .ok ⟨year, month, day⟩

/-- An offset must be shorter than a day. -/
def checkOffset (seconds : Int) : Except Misfit Int :=
  if seconds.natAbs < 86400 then .ok seconds else .error (.offset seconds)

/-- The moment with the given parts, checked in this order. -/
def Moment.make (year month day hour minute second microsecond : Nat)
    (offset : Option Int) : Except Misfit Moment := do
  let date ← Date.make year month day
  if 23 < hour then
    throw .hour
  if 59 < minute then
    throw .minute
  if 59 < second then
    throw .second
  return ⟨date, hour, minute, second, microsecond, offset⟩

/-- The number of days from the first day of the year 1 to that of a year. -/
def daysBefore (year : Nat) : Nat :=
  let past := year - 1
  past * 365 + past / 4 - past / 100 + past / 400

namespace Date

/-- The place of a date in the count of all days. -/
def ordinal (d : Date) : Nat :=
  (List.range (d.month - 1)).foldl (fun days k => days + daysIn d.year (k + 1))
    (daysBefore d.year + d.day)

/-- The date with its parts joined by hyphens. -/
def text (d : Date) : String :=
  Decimal.padded 4 d.year ++ "-" ++ Decimal.padded 2 d.month ++ "-" ++ Decimal.padded 2 d.day

/-- The parts of the date separated by commas. -/
def parts (d : Date) : List String :=
  [toString d.year, toString d.month, toString d.day]

/-- The date as a message names it. -/
def shown (d : Date) : String :=
  "datetime.date(" ++ String.intercalate ", " d.parts ++ ")"

end Date

namespace Moment

/-- The microseconds up to a moment by its own clock. -/
def ownTime (m : Moment) : Int :=
  (((m.date.ordinal * 24 + m.hour) * 60 + m.minute) * 60 + m.second) * 1000000 + m.microsecond

/-- Equality of moments: with offsets, the time that is meant counts, and not its spelling. -/
def same (m n : Moment) : Bool :=
  match m.offset, n.offset with
  | none, none => m = n
  | some s, some t => m.ownTime - s * 1000000 = n.ownTime - t * 1000000
  | _, _ => false

/-- An offset as hours, minutes and, if there are any, seconds. -/
def offsetText (seconds : Int) : String :=
  let n := seconds.natAbs
  (if seconds < 0 then "-" else "+") ++ Decimal.padded 2 (n / 3600) ++ ":" ++
    Decimal.padded 2 (n / 60 % 60) ++
    (if n % 60 = 0 then "" else ":" ++ Decimal.padded 2 (n % 60))

/-- The date, a space, the time of day and the offset. -/
def text (m : Moment) : String :=
  m.date.text ++ " " ++ Decimal.padded 2 m.hour ++ ":" ++ Decimal.padded 2 m.minute ++ ":" ++
    Decimal.padded 2 m.second ++
    (if m.microsecond = 0 then "" else "." ++ Decimal.padded 6 m.microsecond) ++
    (match m.offset with
    | none => ""
    | some seconds => offsetText seconds)

/-- The zone of an offset as a message names it. -/
def zoneShown (seconds : Int) : String :=
  if seconds = 0 then
    "datetime.timezone.utc"
  else
    "datetime.timezone(" ++ spanText seconds ++ ")"

/-- The moment as a message names it: seconds and microseconds only where they are needed. -/
def shown (m : Moment) : String :=
  let fine :=
    if m.microsecond ≠ 0 then
      [toString m.second, toString m.microsecond]
    else if m.second ≠ 0 then
      [toString m.second]
    else
      []
  let zone :=
    match m.offset with
    | none => []
    | some seconds => ["tzinfo=" ++ zoneShown seconds]
  "datetime.datetime(" ++
    String.intercalate ", "
      (m.date.parts ++ [toString m.hour, toString m.minute] ++ fine ++ zone) ++ ")"

end Moment

end Calendar
end CallScript
