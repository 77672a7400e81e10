import LoadScript.Curl.Scan
import LoadScript.Plan.Request

/-!
Forms: the fields of a command, and the body that sends them.
-/

namespace LoadScript.Curl

open Text

def stripQuotes (value : List Char) : List Char :=
  match value with
  | first :: rest =>
      if isQuote first && rest.getLast? = some first then rest.dropLast else value
  | [] => []

/-- Adds the field of one argument; an argument without an equals sign adds none. A value behind an at
sign names a file, and from the first file on all fields are marked as files. -/
def addField (form : Form) (argument : List Char) : Form :=
  match cut? '=' argument with
  | none => form
  | some (key, value) =>
      let (namesFile, value) := match trimChars value with
        | '@' :: name => (true, name)
        | value => (false, value)
      let hasFile := form.hasFile || namesFile
      let field : FormField := {
        key := String.ofList (trimChars key)
        value := String.ofList (stripQuotes value)
        isFile := hasFile }
      { fields := form.fields ++ [field], hasFile }

def form? (text : List Char) : Option Form :=
  match finds (quotedArgument? .exact ["--form", "-F"]) text with
  | [] => none
  | arguments => some (arguments.foldl addField {})

def isUnreserved (character : Char) : Bool :=
  character.isAlphanum || "_.-~!*'()".toList.contains character

def upperHexDigit (value : Nat) : Char :=
  Char.ofNat (if value < 10 then 0x30 + value else 0x37 + value)

def percentByte (byte : UInt8) : List Char :=
  ['%', upperHexDigit (byte.toNat / 16), upperHexDigit (byte.toNat % 16)]

def encodeChar (character : Char) : List Char :=
  if isUnreserved character then [character]
  else (String.utf8EncodeChar character).flatMap percentByte

def encodeComponent (value : String) : String :=
  String.ofList (value.toList.flatMap encodeChar)

def encodedField (field : FormField) : String :=
  encodeComponent field.key ++ "=" ++ encodeComponent field.value

def plainField (field : FormField) : String :=
  field.key ++ (if field.isFile then "=@" else "=") ++ field.value

def formBody (form : Form) : String :=
  String.intercalate "&" (form.fields.map (if form.hasFile then plainField else encodedField))

def formContentType (form : Form) : String :=
  if form.hasFile then "multipart/form-data" else "application/x-www-form-urlencoded"

end LoadScript.Curl
