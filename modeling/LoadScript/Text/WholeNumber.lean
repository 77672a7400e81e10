import LoadScript.Number.Length
import LoadScript.Text.Blank
import LoadScript.Text.Digit

/-!
Whole numbers as people write them: digits of any script, one sign in front, single underscores
between digits, blanks around.
-/

namespace LoadScript.Text

def isDigit (character : Char) : Bool := (digitValue? character).isSome

def withoutSeparators? (afterDigit : Bool) : List Char → Option (List Char)
  | [] => some []
  | '_' :: rest =>
      if afterDigit && rest.head?.any isDigit then withoutSeparators? false rest else none
  | character :: rest => (withoutSeparators? (isDigit character) rest).map (character :: ·)

def digitsValue (digits : List Char) : Nat :=
  digits.foldl (fun value digit => 10 * value + (digitValue? digit).getD 0) 0

inductive NumberFault where
  | notWhole
  | tooLong (number : LongNumber)
deriving DecidableEq, Repr

def natural (text : List Char) : Except NumberFault Nat :=
  let numeral := text.takeWhile fun character => isDigit character || character = '_'
  match withoutSeparators? false numeral with
  | none | some [] => .error .notWhole
  | some digits =>
      if LongNumber.digitLimit < digits.length then .error (.tooLong (.read digits.length))
      else if numeral.length < text.length then .error .notWhole
      else .ok (digitsValue digits)

def wholeNumber (text : String) : Except NumberFault Int :=
  match trimPadding text.toList with
  | '+' :: digits => (natural digits).map Int.ofNat
  | '-' :: digits => (natural digits).map fun value => -Int.ofNat value
  | digits => (natural digits).map Int.ofNat

def wholeNumber? (text : String) : Option Int := (wholeNumber text).toOption

end LoadScript.Text
