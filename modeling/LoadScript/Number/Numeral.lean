import LoadScript.Number.Double
import LoadScript.Text.WholeNumber

/-!
Reading decimal numerals: digits with an optional fraction and an optional power of ten. People may write
the digits in any script, with single underscores between them and blanks around.
-/

namespace LoadScript.Double

def digitsValue (digits : List Char) : Nat :=
  digits.foldl (fun value digit => 10 * value + (digit.toNat - '0'.toNat)) 0

def powerOfTen? : List Char → Option Int
  | [] => some 0
  | mark :: rest =>
      if mark != 'e' && mark != 'E' then none
      else
        let (negative, digits) :=
          match rest with
          | '-' :: digits => (true, digits)
          | '+' :: digits => (false, digits)
          | digits => (false, digits)
        if digits.isEmpty || digits.any (!·.isDigit) then none
        else some (if negative then -Int.ofNat (digitsValue digits) else digitsValue digits)

def magnitude? (negative : Bool) (text : List Char) : Option Double :=
  let whole := text.takeWhile Char.isDigit
  let rest := text.dropWhile Char.isDigit
  let (fraction, rest) :=
    match rest with
    | '.' :: rest => (rest.takeWhile Char.isDigit, rest.dropWhile Char.isDigit)
    | rest => ([], rest)
  if whole.isEmpty && fraction.isEmpty then none
  else (powerOfTen? rest).map fun power =>
    ofDecimal negative (digitsValue (whole ++ fraction)) (power - fraction.length)

def ofNumeral? (text : List Char) : Option Double :=
  let (negative, text) :=
    match text with
    | '-' :: text => (true, text)
    | '+' :: text => (false, text)
    | text => (false, text)
  match String.ofList (text.map Char.toLower) with
  | "nan" => some .notANumber
  | "inf" | "infinity" => some (.infinity negative)
  | _ => magnitude? negative text

def plainDigit (character : Char) : Char :=
  match Text.digitValue? character with
  | some value => Char.ofNat ('0'.toNat + value)
  | none => character

def read? (text : String) : Option Double :=
  (Text.withoutSeparators? false ((Text.trimPadding text.toList).map plainDigit)).bind ofNumeral?

end LoadScript.Double
