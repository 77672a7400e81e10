import LoadScript.Number.Double

/-!
The text of a double with the fewest digits that read back as the same number.
-/

namespace LoadScript.Double

structure Decimal where
  digits : Nat
  exponent : Int
deriving DecidableEq, Repr

/-- The point of the grid `10 ^ place` nearest to `mantissa * 2 ^ exponent` units that still reads back
as that number, in steps of the grid; of two at one distance the even one. A number reads back from
every point nearer to it than to its neighbours, and from the midpoints if its mantissa is even. Below
the least mantissa of an exponent the neighbour is twice as near. All lengths are in quarter units. -/
def gridPoint? (mantissa exponent : Nat) (place : Int) : Option Nat :=
  let scale := tenTo (-place).toNat
  let step := 4 * unitsPerOne * tenTo place.toNat
  let value := 4 * mantissa * twoTo exponent * scale
  let above := 2 * twoTo exponent * scale
  let below := (if mantissa = twoTo 52 && exponent != 0 then 1 else 2) * twoTo exponent * scale
  let readsBack (point : Nat) : Bool :=
    if mantissa % 2 = 0 then value - below ≤ point * step && point * step ≤ value + above
    else value - below < point * step && point * step < value + above
  let lower := value / step
  match readsBack lower, readsBack (lower + 1) with
  | true, true => some (roundQuotient value step)
  | true, false => some lower
  | false, true => some (lower + 1)
  | false, false => none

def leadingPlace (units : Nat) : Int :=
  if unitsPerOne ≤ units then (Nat.toDigits 10 (units / unitsPerOne)).length
  else 1 - Int.ofNat ((Nat.toDigits 10 (unitsPerOne / units)).length - 1)

/-- The decimal with the fewest digits that reads back as the number. The grids are tried from the
coarsest, and seventeen digits always suffice. -/
def shortest (mantissa exponent : Nat) : Decimal :=
  let first := leadingPlace (mantissa * twoTo exponent)
  let places := (List.range 19).map fun count => first - Int.ofNat count
  (places.findSome? fun place =>
    (gridPoint? mantissa exponent place).map fun digits => ⟨digits, place⟩).getD ⟨mantissa, 0⟩

def positional (digits : List Char) (point : Int) : List Char :=
  if point ≤ 0 then '0' :: '.' :: List.replicate (-point).toNat '0' ++ digits
  else if digits.length ≤ point.toNat then
    digits ++ List.replicate (point.toNat - digits.length) '0' ++ ['.', '0']
  else digits.take point.toNat ++ '.' :: digits.drop point.toNat

def scientific (digits : List Char) (power : Int) : List Char :=
  let exponent := Nat.toDigits 10 power.natAbs
  digits.take 1 ++ (if digits.length ≤ 1 then [] else '.' :: digits.drop 1) ++
    ['e', if power < 0 then '-' else '+'] ++
    List.replicate (2 - exponent.length) '0' ++ exponent

def decimalText (decimal : Decimal) : List Char :=
  let digits := Nat.toDigits 10 decimal.digits
  let point := decimal.exponent + digits.length
  if -4 < point && point ≤ 16 then positional digits point else scientific digits (point - 1)

def finiteText (negative : Bool) (mantissa exponent : Nat) : String :=
  let magnitude := if mantissa = 0 then ['0', '.', '0'] else decimalText (shortest mantissa exponent)
  String.ofList (if negative then '-' :: magnitude else magnitude)

def text : Double → String
  | .notANumber => "nan"
  | .infinity negative => if negative then "-inf" else "inf"
  | .finite negative mantissa exponent => finiteText negative mantissa exponent

end LoadScript.Double
