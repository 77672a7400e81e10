/-!
Floating-point numbers of 64 bits, as exact multiples of the smallest positive one.
-/

namespace LoadScript

/-- A number that is not finite, or `mantissa * 2 ^ exponent` units with a sign, where the unit is
`2 ^ (-1074)`. Rounding gives mantissas below `2 ^ 53`, and below `2 ^ 52` only with exponent zero, so
each number has one form. -/
inductive Double where
  | notANumber
  | infinity (negative : Bool)
  | finite (negative : Bool) (mantissa exponent : Nat)
deriving DecidableEq, Repr

namespace Double

def twoTo (exponent : Nat) : Nat := Nat.pow 2 exponent

def tenTo (exponent : Nat) : Nat := Nat.pow 10 exponent

def unitsPerOne : Nat := twoTo 1074

def topExponent : Nat := 2045

def zero : Double := .finite false 0 0

def roundQuotient (numerator denominator : Nat) : Nat :=
  let quotient := numerator / denominator
  let twice := 2 * (numerator % denominator)
  if twice < denominator then quotient
  else if denominator < twice then quotient + 1
  else quotient + quotient % 2

def ofUnits (negative : Bool) (numerator denominator : Nat) : Double :=
  let shift := (numerator / denominator).log2 - 52
  let mantissa := roundQuotient numerator (denominator * twoTo shift)
  let (mantissa, exponent) := if mantissa = twoTo 53 then (twoTo 52, shift + 1) else (mantissa, shift)
  if topExponent < exponent then .infinity negative else .finite negative mantissa exponent

def ofNat (value : Nat) : Double :=
  ofUnits false (value * unitsPerOne) 1

def finite? : Double → Option Double
  | .finite negative mantissa exponent => some (.finite negative mantissa exponent)
  | _ => none

def ofInt? (value : Int) : Option Double :=
  finite? (ofUnits (value < 0) (value.natAbs * unitsPerOne) 1)

/-- The nearest double to `digits * 10 ^ exponent`. Numbers far outside the range are settled by their
count of digits, before any power is formed. -/
def ofDecimal (negative : Bool) (digits : Nat) (exponent : Int) : Double :=
  let point := exponent + (Nat.toDigits 10 digits).length
  if digits = 0 || point < -400 then .finite negative 0 0
  else if 400 < point then .infinity negative
  else if exponent < 0 then ofUnits negative (digits * unitsPerOne) (tenTo (-exponent).toNat)
  else ofUnits negative (digits * unitsPerOne * tenTo exponent.toNat) 1

def units? : Double → Option Int
  | .finite negative mantissa exponent =>
      some (if negative then -Int.ofNat (mantissa * twoTo exponent) else mantissa * twoTo exponent)
  | _ => none

def whole? (number : Double) : Option Int :=
  number.units?.bind fun units =>
    if units % unitsPerOne = 0 then some (units / unitsPerOne) else none

def nearest? : Double → Option Int
  | .finite negative mantissa exponent =>
      let magnitude := Int.ofNat (roundQuotient (mantissa * twoTo exponent) unitsPerOne)
      some (if negative then -magnitude else magnitude)
  | _ => none

def isPositive : Double → Bool
  | .notANumber => false
  | .infinity negative => !negative
  | .finite negative mantissa _ => !negative && mantissa != 0

def negate : Double → Double
  | .notANumber => .notANumber
  | .infinity negative => .infinity (!negative)
  | .finite negative mantissa exponent => .finite (!negative) mantissa exponent

def add : Double → Double → Double
  | .notANumber, _ | _, .notANumber => .notANumber
  | .infinity left, .infinity right => if left = right then .infinity left else .notANumber
  | .infinity left, .finite .. => .infinity left
  | .finite .., .infinity right => .infinity right
  | .finite left leftMantissa leftExponent, .finite right rightMantissa rightExponent =>
      let signed (negative : Bool) (magnitude : Nat) : Int :=
        if negative then -Int.ofNat magnitude else magnitude
      let sum := signed left (leftMantissa * twoTo leftExponent) +
        signed right (rightMantissa * twoTo rightExponent)
      if sum = 0 then .finite (left && right) 0 0 else ofUnits (sum < 0) sum.natAbs 1

def sub (left right : Double) : Double :=
  add left right.negate

def divideBy (divisor : Nat) : Double → Double
  | .finite negative mantissa exponent => ofUnits negative (mantissa * twoTo exponent) divisor
  | other => other

def roundTo (places : Nat) : Double → Double
  | .finite negative mantissa exponent =>
      let scaled := roundQuotient (mantissa * twoTo exponent * tenTo places) unitsPerOne
      ofUnits negative (scaled * unitsPerOne) (tenTo places)
  | other => other

end Double

end LoadScript
