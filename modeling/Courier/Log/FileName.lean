import Courier.Log.Basic

/-!
Names of log files. There is one file a day; its name is the stem of the settings and the date, by
the Gregorian calendar in the time zone UTC.
-/

namespace Courier.Log

structure Date where
  year : Nat
  month : Nat
  day : Nat
  deriving DecidableEq, Repr

namespace Date

/-- The date of a day, counted from 1 January 1970. Years are taken to start in March, so that a
    leap day is the last of its year; 400 of them have 146097 days. -/
def ofDays (days : Nat) : Date :=
  let days := days + 719468
  let cycle := days / 146097
  let dayOfCycle := days % 146097
  let yearOfCycle :=
    (dayOfCycle - dayOfCycle / 1460 + dayOfCycle / 36524 - dayOfCycle / 146096) / 365
  let dayOfYear := dayOfCycle - (365 * yearOfCycle + yearOfCycle / 4 - yearOfCycle / 100)
  let monthOfYear := (5 * dayOfYear + 2) / 153
  let month := if monthOfYear < 10 then monthOfYear + 3 else monthOfYear - 9
  let year := yearOfCycle + 400 * cycle
  ⟨if month ≤ 2 then year + 1 else year, month, dayOfYear - (153 * monthOfYear + 2) / 5 + 1⟩

def twoDigits (n : Nat) : String := if n < 10 then s!"0{n}" else toString n

def text (date : Date) : String := s!"{date.year}-{twoDigits date.month}-{twoDigits date.day}"

end Date

def Config.filePath (config : Config) (date : Date) : String :=
  s!"{config.folder}/{config.fileStem}.{date.text}"

end Courier.Log
