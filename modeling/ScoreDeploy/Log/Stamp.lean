import ScoreDeploy.Text.Numeral

/-!
# Time stamps

A log line starts with the time of the event, written as the date and the time of day at longitude
zero, down to microseconds. The calendar is counted from the first of March of the year zero, so
that a leap day is the last day of its year; 146097 days make four hundred years.
-/

namespace ScoreDeploy.Log

/-- A day of the calendar. -/
structure Day where
  year : Nat
  month : Nat
  day : Nat
deriving DecidableEq, Repr

namespace Day

/-- The number of days from the first of March of the year zero to the first of January 1970. -/
def daysBeforeEpoch : Nat := 719468

/-- The day that comes that many days after the first of January 1970. -/
def ofDays (days : Nat) : Day :=
  let count := days + daysBeforeEpoch
  let inCycle := count % 146097
  let yearInCycle := (inCycle - inCycle / 1460 + inCycle / 36524 - inCycle / 146096) / 365
  let inYear := inCycle - (365 * yearInCycle + yearInCycle / 4 - yearInCycle / 100)
  let march := (5 * inYear + 2) / 153
  let month := if march < 10 then march + 3 else march - 9
  let year := yearInCycle + count / 146097 * 400
  ⟨if month ≤ 2 then year + 1 else year, month, inYear - (153 * march + 2) / 5 + 1⟩

end Day

/-- The time that lies that many microseconds after the start of 1970. -/
def stamp (micros : Nat) : String :=
  let seconds := micros / 1000000
  let day := Day.ofDays (seconds / 86400)
  let part (width n : Nat) (mark : String) : String :=
    String.ofList (Numeral.padded width n) ++ mark
  part 4 day.year "-" ++ part 2 day.month "-" ++ part 2 day.day "T" ++
    part 2 (seconds / 3600 % 24) ":" ++ part 2 (seconds / 60 % 60) ":" ++
    part 2 (seconds % 60) "." ++ part 6 (micros % 1000000) "Z"

example : stamp 0 = "1970-01-01T00:00:00.000000Z" := by decide +kernel

example : stamp 1709210096000007 = "2024-02-29T12:34:56.000007Z" := by decide +kernel

end ScoreDeploy.Log
