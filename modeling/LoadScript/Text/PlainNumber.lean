import LoadScript.Text.Split
import LoadScript.Text.WholeNumber

/-!
Whole numbers as options take them: plain digits with single underscores between them. A plus sign and
zeros in front, a fraction of zeros at the end, and blanks around do not count.
-/

namespace LoadScript.Text

/-- What follows a zero in front of a number. Zeros and underscores are passed over, `last` being the last
of them; before a point and at the end that one stands for the number. -/
def withoutZeros? (last : Char) : List Char → Option (List Char)
  | [] => some [last]
  | '.' :: rest => some (last :: '.' :: rest)
  | character :: rest =>
      if character = '0' || character = '_' then withoutZeros? character rest
      else if character.isDigit then some (character :: rest)
      else none

def fromFirstDigit? : List Char → Option (List Char)
  | [] => none
  | '0' :: rest => withoutZeros? '0' rest
  | character :: rest => if character.isDigit then some (character :: rest) else none

def withoutZeroFraction (text : List Char) : List Char :=
  match cut? '.' text with
  | some (whole, fraction) =>
      if !fraction.isEmpty && fraction.all (· = '0') then whole else text
  | none => text

def withoutPlus : List Char → List Char
  | '+' :: rest => rest
  | text => text

def plainNumber? (text : String) : Option Nat := do
  let digits := withoutZeroFraction (← fromFirstDigit? (withoutPlus (trimPadding text.toList)))
  if digits.all fun character => character.isDigit || character = '_' then
    (withoutSeparators? false digits).map digitsValue
  else none

end LoadScript.Text
