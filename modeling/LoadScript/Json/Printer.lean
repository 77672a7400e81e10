import LoadScript.Json.Value
import LoadScript.Number.Shortest
import LoadScript.Text.Quoted

/-!
Writing JSON text, on one line or with one member or item a line.
-/

namespace LoadScript.Json

structure Layout where
  indentation : Option Nat
  keepsUnicode : Bool

def Layout.oneLine : Layout := ⟨none, false⟩

def Layout.indented (width : Nat) : Layout := ⟨some width, false⟩

def unitEscape (unit : Nat) : List Char :=
  '\\' :: 'u' :: Text.hexDigits 4 unit

def codeEscape (code : Nat) : List Char :=
  if code < 0x10000 then unitEscape code
  else unitEscape (0xD800 + (code - 0x10000) / 1024) ++ unitEscape (0xDC00 + (code - 0x10000) % 1024)

def quotedChar (keepsUnicode : Bool) (character : Char) : List Char :=
  if character = '"' then ['\\', '"']
  else if character = '\\' then ['\\', '\\']
  else if character = '\n' then ['\\', 'n']
  else if character = '\r' then ['\\', 'r']
  else if character = '\t' then ['\\', 't']
  else if character.toNat = 8 then ['\\', 'b']
  else if character.toNat = 12 then ['\\', 'f']
  else if character.toNat < 0x20 then unitEscape character.toNat
  else if keepsUnicode || character.toNat < 0x7F then [character]
  else codeEscape character.toNat

def quotedText (keepsUnicode : Bool) (value : String) : String :=
  String.ofList ('"' :: value.toList.flatMap (quotedChar keepsUnicode) ++ ['"'])

def realText : Double → String
  | .notANumber => "NaN"
  | .infinity negative => if negative then "-Infinity" else "Infinity"
  | .finite negative mantissa exponent => Double.finiteText negative mantissa exponent

def lineBreak (layout : Layout) (level : Nat) : String :=
  match layout.indentation with
  | none => ""
  | some width => String.ofList ('\n' :: List.replicate (width * level) ' ')

def separator (layout : Layout) (level : Nat) : String :=
  match layout.indentation with
  | none => ", "
  | some _ => "," ++ lineBreak layout level

def enclosed (layout : Layout) (level : Nat) (left right : String) (parts : List String) : String :=
  match parts with
  | [] => left ++ right
  | _ =>
      left ++ lineBreak layout (level + 1) ++
        String.intercalate (separator layout (level + 1)) parts ++ lineBreak layout level ++ right

mutual

def renderAt (layout : Layout) (level : Nat) : Json → String
  | .null => "null"
  | .boolean value => if value then "true" else "false"
  | .whole value => toString value
  | .real value => realText value
  | .string value => quotedText layout.keepsUnicode value
  | .array items => enclosed layout level "[" "]" (renderItems layout (level + 1) items)
  | .object members => enclosed layout level "\x7b" "\x7d" (renderMembers layout (level + 1) members)

def renderItems (layout : Layout) (level : Nat) : List Json → List String
  | [] => []
  | item :: rest => renderAt layout level item :: renderItems layout level rest

def renderMembers (layout : Layout) (level : Nat) : List (String × Json) → List String
  | [] => []
  | (name, member) :: rest =>
      (quotedText layout.keepsUnicode name ++ ": " ++ renderAt layout level member) ::
        renderMembers layout level rest

end

def render (layout : Layout) (document : Json) : String :=
  renderAt layout 0 document

end LoadScript.Json
