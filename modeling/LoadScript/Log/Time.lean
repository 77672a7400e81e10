import LoadScript.Log.Moment
import LoadScript.Number.Double

/-!
The times of records: seconds since the start of 1970, and the moments that they stand for.
-/

namespace LoadScript.Log

inductive Time where
  | whole (seconds : Int)
  | real (seconds : Double)
deriving DecidableEq, Repr

inductive TimeError where
  | notANumber
  | outOfRange
  | tooLarge
  | yearTooLarge
  | yearOutOfRange (year : Int)
deriving DecidableEq, Repr

def TimeError.message : TimeError → String
  | .notANumber => "Invalid value NaN (not a number)"
  | .outOfRange => "timestamp out of range for platform time_t"
  | .tooLarge => "[Errno 75] Value too large for defined data type"
  | .yearTooLarge => "signed integer is greater than maximum"
  | .yearOutOfRange year => "year " ++ toString year ++ " is out of range"

def unitsOf (seconds : Double) : Except TimeError Int :=
  match seconds, seconds.units? with
  | .notANumber, _ => .error .notANumber
  | _, some units => .ok units
  | _, none => .error .outOfRange

def yearLimit : Int := Double.twoTo 31

def momentAt (seconds : Int) : Except TimeError Moment :=
  let limit := Int.ofNat (Double.twoTo 63)
  if seconds < -limit || limit ≤ seconds then .error .outOfRange
  else
    let moment := Moment.ofEpoch seconds
    let years := moment.year - 1900
    if years < -yearLimit || yearLimit ≤ years then .error .tooLarge else .ok moment

def microsecondsOf (units : Int) : Int :=
  ((Double.ofUnits (units < 0) (units.natAbs * 1000000) 1).nearest?).getD 0

def splitUnits (units : Int) : Int × Nat :=
  let seconds := units.tdiv Double.unitsPerOne
  let micros := microsecondsOf (units.tmod Double.unitsPerOne)
  if 1000000 ≤ micros then (seconds + 1, (micros - 1000000).toNat)
  else if micros < 0 then (seconds - 1, (micros + 1000000).toNat)
  else (seconds, micros.toNat)

namespace Time

def second : Time → Except TimeError Int
  | .whole seconds => .ok seconds
  | .real seconds => do pure ((← unitsOf seconds).fdiv Double.unitsPerOne)

def split : Time → Except TimeError (Int × Nat)
  | .whole seconds => .ok (seconds, 0)
  | .real seconds => do pure (splitUnits (← unitsOf seconds))

def plainText (time : Time) : Except TimeError String := do
  let moment ← momentAt (← time.second)
  if yearLimit ≤ moment.year then throw .yearTooLarge
  pure moment.text

/-- Date and time with the zone, and with six digits of a fraction if there is one. Years are words of 32
bits, and those that are shown have four digits. -/
def exactText (time : Time) : Except TimeError String := do
  let (seconds, micros) ← time.split
  let moment ← momentAt seconds
  let year := moment.year.bmod (Double.twoTo 32)
  if year < 1 || 9999 < year then throw (.yearOutOfRange year)
  pure (moment.fullDateText ++ "T" ++ moment.timeText ++
    (if micros = 0 then "" else "." ++ Moment.paddedDigits 6 micros) ++ "+00:00")

end Time

end LoadScript.Log
