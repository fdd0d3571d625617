import CallScript.Calendar

/-!
# Dates of clock readings

The moment that lies a number of seconds after the beginning of the year 1970.
-/

namespace CallScript
namespace Calendar

/-- The date a number of days after the first of March of the year zero. -/
def dateOfDay (days : Nat) : Date :=
  let era := days / 146097
  let dayOfEra := days % 146097
  let yearOfEra :=
    (dayOfEra - dayOfEra / 1460 + dayOfEra / 36524 - dayOfEra / 146096) / 365
  let dayOfYear := dayOfEra - (365 * yearOfEra + yearOfEra / 4 - yearOfEra / 100)
  let shifted := (5 * dayOfYear + 2) / 153
  let day := dayOfYear - (153 * shifted + 2) / 5 + 1
  let month := if shifted < 10 then shifted + 3 else shifted - 9
  let year := yearOfEra + era * 400 + (if month ≤ 2 then 1 else 0)
  ⟨year, month, day⟩

/-- The moment a number of microseconds after the beginning of the year 1970. -/
def momentOfClock (microseconds : Nat) : Moment :=
  let seconds := microseconds / 1000000
  { date := dateOfDay (seconds / 86400 + 719468)
    hour := seconds / 3600 % 24
    minute := seconds / 60 % 60
    second := seconds % 60
    microsecond := microseconds % 1000000
    offset := none }

end Calendar
end CallScript
