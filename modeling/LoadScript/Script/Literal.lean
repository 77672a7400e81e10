import LoadScript.Number.Shortest
import LoadScript.Script.Syntax

/-!
How texts and numbers are spelled in a script.
-/

namespace LoadScript.Script

def quotedChar (character : Char) : List Char :=
  if character = '\\' then ['\\', '\\']
  else if character = '\'' then ['\\', '\'']
  else if character = '\n' then ['\\', 'n']
  else if character = '\r' then ['\\', 'r']
  else if character.toNat = 0x2028 then "\\u2028".toList
  else if character.toNat = 0x2029 then "\\u2029".toList
  else [character]

def quote (value : String) : String :=
  String.ofList ('\'' :: value.toList.flatMap quotedChar ++ ['\''])

def templateChars : List Char → List Char
  | [] => []
  | '$' :: '\x7b' :: rest => '\\' :: '$' :: '\x7b' :: templateChars rest
  | character :: rest =>
      if character = '\\' || character = '\x60' then '\\' :: character :: templateChars rest
      else character :: templateChars rest

def templateText (value : String) : String :=
  String.ofList (templateChars value.toList)

def isIdentifierStart (character : Char) : Bool :=
  character.isAlpha || character = '_' || character = '$'

def isIdentifierPart (character : Char) : Bool :=
  isIdentifierStart character || character.isDigit

/-- Whether a property key is left without quotes: a name of ASCII letters, digits, underscores and
dollar signs that starts with no digit. One line feed behind it is looked past. -/
def isBareKey (key : String) : Bool :=
  let characters := key.toList
  let name := if characters.getLast? = some '\n' then characters.dropLast else characters
  match name with
  | [] => false
  | first :: rest => isIdentifierStart first && rest.all isIdentifierPart

def keyText (quotesKeys : Bool) (key : String) : String :=
  if !quotesKeys && isBareKey key then key else quote key

def numberText : Number → String
  | .whole value => toString value
  | .real value =>
      match value.whole? with
      | some whole => toString whole
      | none => value.text
  | .truth value => if value then "true" else "false"

end LoadScript.Script
