/-!
The greatest length of whole numbers in text. Longer ones are neither read nor written.
-/

namespace LoadScript

inductive LongNumber where
  | read (digits : Nat)
  | written
deriving DecidableEq, Repr

namespace LongNumber

def digitLimit : Nat := 4300

def message : LongNumber → String
  | .read digits =>
      "Exceeds the limit (" ++ toString digitLimit ++
        " digits) for integer string conversion: value has " ++ toString digits ++
        " digits; use sys.set_int_max_str_digits() to increase the limit"
  | .written =>
      "Exceeds the limit (" ++ toString digitLimit ++
        " digits) for integer string conversion; use sys.set_int_max_str_digits() to increase the limit"

def fits (value : Int) : Bool := value.natAbs < Nat.pow 10 digitLimit

end LongNumber

end LoadScript
