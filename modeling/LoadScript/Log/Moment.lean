/-!
Moments of the calendar, to the second, in the zone of universal time.
-/

namespace LoadScript

structure Moment where
  year : Int
  month : Nat
  day : Nat
  hour : Nat
  minute : Nat
  second : Nat
deriving DecidableEq, Repr

namespace Moment

def paddedDigits (width value : Nat) : String :=
  let digits := Nat.toDigits 10 value
  String.ofList (List.replicate (width - digits.length) '0' ++ digits)

def dateBehind (year : String) (moment : Moment) : String :=
  year ++ "-" ++ paddedDigits 2 moment.month ++ "-" ++ paddedDigits 2 moment.day

def dateText (moment : Moment) : String := moment.dateBehind (toString moment.year)

def fullDateText (moment : Moment) : String :=
  moment.dateBehind (paddedDigits 4 moment.year.toNat)

def timeText (moment : Moment) : String :=
  paddedDigits 2 moment.hour ++ ":" ++ paddedDigits 2 moment.minute ++ ":" ++
    paddedDigits 2 moment.second

def text (moment : Moment) : String := moment.dateText ++ " " ++ moment.timeText

/-- The moment that lies a number of seconds behind the start of 1970. Days are counted in cycles of
400 years that start on a first of March, so that leap days end their years. -/
def ofEpoch (seconds : Int) : Moment :=
  let days := seconds.fdiv 86400 + 719468
  let secondOfDay := (seconds.fmod 86400).toNat
  let cycle := days.fdiv 146097
  let dayOfCycle := (days.fmod 146097).toNat
  let yearOfCycle :=
    (dayOfCycle - dayOfCycle / 1460 + dayOfCycle / 36524 - dayOfCycle / 146096) / 365
  let dayOfYear := dayOfCycle - (365 * yearOfCycle + yearOfCycle / 4 - yearOfCycle / 100)
  let monthFromMarch := (5 * dayOfYear + 2) / 153
  let month := if monthFromMarch < 10 then monthFromMarch + 3 else monthFromMarch - 9
  { year := cycle * 400 + yearOfCycle + if month ≤ 2 then 1 else 0
    month := month
    day := dayOfYear - (153 * monthFromMarch + 2) / 5 + 1
    hour := secondOfDay / 3600
    minute := secondOfDay / 60 % 60
    second := secondOfDay % 60 }

end Moment

end LoadScript
