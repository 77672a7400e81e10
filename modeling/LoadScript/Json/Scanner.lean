import LoadScript.Json.Reader
import LoadScript.Json.Value
import LoadScript.Number.Length
import LoadScript.Number.Numeral
import LoadScript.Text.Digit
import LoadScript.Text.Split

/-!
The words of JSON text: blanks, strings with their escapes, and numbers.
-/

namespace LoadScript.Json

inductive Problem where
  | expectedValue
  | expectedName
  | expectedColon
  | expectedComma
  | extraData
  | unterminatedString
  | controlCharacter
  | badEscape
  | badCodeEscape
  | byteOrderMark
deriving DecidableEq, Repr

inductive Overrun where
  | longNumber (number : LongNumber)
  | deepList
  | deepObject
deriving DecidableEq, Repr

def Overrun.message : Overrun → String
  | .longNumber number => number.message
  | .deepList => "maximum recursion depth exceeded while decoding a JSON array from a unicode string"
  | .deepObject => "maximum recursion depth exceeded while decoding a JSON object from a unicode string"

inductive Fault where
  | problem (problem : Problem) (remaining : Nat)
  | overrun (overrun : Overrun)
deriving DecidableEq, Repr

def Fault.at (problem : Problem) (rest : List Char) : Fault := .problem problem rest.length

def isGap (character : Char) : Bool :=
  character = ' ' || character = '\t' || character = '\n' || character = '\r'

def skipGaps (text : List Char) : List Char := text.dropWhile isGap

def shortEscape? : Char → Option Char
  | '"' => some '"'
  | '\\' => some '\\'
  | '/' => some '/'
  | 'b' => some (Char.ofNat 8)
  | 'f' => some (Char.ofNat 12)
  | 'n' => some '\n'
  | 'r' => some '\r'
  | 't' => some '\t'
  | _ => none

def codeUnit? : List Char → Option Nat
  | first :: second :: third :: fourth :: _ :: _ => do
      let first ← Text.hexValue? first
      let second ← Text.hexValue? second
      let third ← Text.hexValue? third
      let fourth ← Text.hexValue? fourth
      pure (first * 4096 + second * 256 + third * 16 + fourth)
  | _ => none

def isHighSurrogate (unit : Nat) : Bool := 0xD800 ≤ unit && unit ≤ 0xDBFF

def isLowSurrogate (unit : Nat) : Bool := 0xDC00 ≤ unit && unit ≤ 0xDFFF

def unitChar (dialect : Dialect) (unit : Nat) : Char :=
  if isHighSurrogate unit || isLowSurrogate unit then dialect.half unit else Char.ofNat unit

def pairChar (high low : Nat) : Char :=
  Char.ofNat (0x10000 + (high - 0xD800) * 1024 + (low - 0xDC00))

def escape (dialect : Dialect) (opening : List Char) : List Char → Except Fault (Char × Nat)
  | '\\' :: 'u' :: digits =>
      match codeUnit? digits with
      | none => .error (.at .badCodeEscape ('u' :: digits))
      | some high =>
          match digits.drop 4 with
          | '\\' :: 'u' :: more =>
              if isHighSurrogate high && 4 < more.length then
                match codeUnit? more with
                | none => .error (.at .badCodeEscape ('u' :: more))
                | some low =>
                    if isLowSurrogate low then .ok (pairChar high low, 12)
                    else .ok (unitChar dialect high, 6)
              else .ok (unitChar dialect high, 6)
          | _ => .ok (unitChar dialect high, 6)
  | backslash :: mark :: rest =>
      match shortEscape? mark with
      | some character => .ok (character, 2)
      | none => .error (.at .badEscape (backslash :: mark :: rest))
  | _ => .error (.at .unterminatedString opening)

/-- Reads a string behind its opening quote up to its closing quote. `opening` is the text from the
opening quote on, and `skip` characters were read with an escape already. -/
def stringBody (dialect : Dialect) (opening : List Char) :
    (skip : Nat) → List Char → Except Fault (List Char × List Char)
  | _, [] => .error (.at .unterminatedString opening)
  | skip + 1, _ :: rest => stringBody dialect opening skip rest
  | 0, character :: rest =>
      if character = '"' then .ok ([], rest)
      else if character = '\\' then do
        let (decoded, width) ← escape dialect opening (character :: rest)
        let (body, rest) ← stringBody dialect opening (width - 1) rest
        pure (decoded :: body, rest)
      else if character.toNat < 0x20 then .error (.at .controlCharacter (character :: rest))
      else do
        let (body, rest) ← stringBody dialect opening 0 rest
        pure (character :: body, rest)

def fraction : List Char → List Char × List Char
  | '.' :: digit :: rest =>
      if digit.isDigit then
        ('.' :: digit :: rest.takeWhile Char.isDigit, rest.dropWhile Char.isDigit)
      else ([], '.' :: digit :: rest)
  | rest => ([], rest)

def power (text : List Char) : List Char × List Char :=
  match text with
  | mark :: rest =>
      if mark = 'e' || mark = 'E' then
        let (sign, rest) :=
          match rest with
          | '+' :: rest => (['+'], rest)
          | '-' :: rest => (['-'], rest)
          | rest => ([], rest)
        let digits := rest.takeWhile Char.isDigit
        if digits.isEmpty then ([], text)
        else (mark :: sign ++ digits, rest.dropWhile Char.isDigit)
      else ([], text)
  | [] => ([], [])

def wholePart? : List Char → Option (List Char × List Char)
  | '0' :: rest => some (['0'], rest)
  | digit :: rest =>
      if digit.isDigit then
        some (digit :: rest.takeWhile Char.isDigit, rest.dropWhile Char.isDigit)
      else none
  | [] => none

def number (dialect : Dialect) (text : List Char) : Except Fault (Json × List Char) :=
  let (sign, unsigned) :=
    match text with
    | '-' :: rest => (['-'], rest)
    | rest => ([], rest)
  match wholePart? unsigned with
  | none => .error (.at .expectedValue text)
  | some (digits, rest) =>
      let (fraction, rest) := fraction rest
      let (power, rest) := power rest
      if !fraction.isEmpty || !power.isEmpty then
        let numeral := sign ++ digits ++ fraction ++ power
        .ok (.real ((Double.ofNumeral? numeral).getD .notANumber), rest)
      else if dialect.digitLimit < digits.length then
        .error (.overrun (.longNumber (.read digits.length)))
      else
        let value := Int.ofNat (Double.digitsValue digits)
        .ok (.whole (if sign.isEmpty then value else -value), rest)

def constants : List (List Char × Json) := [
  ("null".toList, .null), ("true".toList, .boolean true), ("false".toList, .boolean false),
  ("NaN".toList, .real .notANumber), ("Infinity".toList, .real (.infinity false)),
  ("-Infinity".toList, .real (.infinity true))]

def scalar (dialect : Dialect) (text : List Char) : Except Fault (Json × List Char) :=
  let constant? := constants.findSome? fun (word, value) =>
    (Text.dropStart? word text).map fun rest => (value, rest)
  match constant? with
  | some result => .ok result
  | none => number dialect text

end LoadScript.Json
