/-!
Sets and maps of character codes, given by ranges.
-/

namespace LoadScript.Text

abbrev Ranges := List (Nat × Nat)

def Ranges.contains : Ranges → Nat → Bool
  | [], _ => false
  | (first, last) :: rest, code =>
      if code < first then false
      else if code ≤ last then true
      else Ranges.contains rest code

structure Progression where
  first : Nat
  last : Nat
  step : Nat

def Progression.contains (progression : Progression) (code : Nat) : Bool :=
  progression.first ≤ code && code ≤ progression.last &&
    (code - progression.first) % progression.step = 0

structure Shift where
  first : Nat
  last : Nat
  step : Nat
  target : Nat

def Shift.apply? (shift : Shift) (code : Nat) : Option Nat :=
  if shift.first ≤ code && code ≤ shift.last && (code - shift.first) % shift.step = 0 then
    some (shift.target + (code - shift.first))
  else none

end LoadScript.Text
