import LoadScript.Text.Printable

/-!
Text as messages quote it: between quotation marks, with every character that has no visible form
written as an escape.
-/

namespace LoadScript.Text

def hexDigit (value : Nat) : Char :=
  Char.ofNat (if value < 10 then 0x30 + value else 0x57 + value)

def hexDigits : (width value : Nat) → List Char
  | 0, _ => []
  | width + 1, value => hexDigits width (value / 16) ++ [hexDigit (value % 16)]

def escapeByCode (character : Char) : List Char :=
  if character.toNat < 0x100 then '\\' :: 'x' :: hexDigits 2 character.toNat
  else if character.toNat < 0x10000 then '\\' :: 'u' :: hexDigits 4 character.toNat
  else '\\' :: 'U' :: hexDigits 8 character.toNat

def quotedChar (mark character : Char) : List Char :=
  if character = mark || character = '\\' then ['\\', character]
  else if character = '\t' then ['\\', 't']
  else if character = '\n' then ['\\', 'n']
  else if character = '\r' then ['\\', 'r']
  else if isPrintable character then [character]
  else escapeByCode character

def quotationMark (text : List Char) : Char :=
  if text.contains '\'' && !text.contains '"' then '"' else '\''

def quoted (text : String) : String :=
  let mark := quotationMark text.toList
  String.ofList (mark :: text.toList.flatMap (quotedChar mark) ++ [mark])

end LoadScript.Text
