import LoadScript.Script.Syntax
import LoadScript.Text.Letter

/-!
Placeholders in configured texts. A name in braces behind a dollar sign stands for a constant of the
environment if it starts with an upper-case letter, and else for a value kept from an earlier response.
-/

namespace LoadScript.Script

def chainStore : String := "extractedVars"

def chained (name : String) : String := chainStore ++ "." ++ name

def isEnvironmentName (name : String) : Bool :=
  (name.toList.head?.map Text.isUppercase).getD false

def referenceName (name : String) : String :=
  if isEnvironmentName name then name else chained name

def isNameStart (character : Char) : Bool :=
  character.isAlpha || character = '_'

def isNamePart (character : Char) : Bool :=
  isNameStart character || character.isDigit

def placeholderAt? : List Char → Option (List Char)
  | '$' :: '\x7b' :: first :: rest =>
      if isNameStart first && (rest.dropWhile isNamePart).head? = some '\x7d' then
        some (first :: rest.takeWhile isNamePart)
      else none
  | _ => none

inductive Piece where
  | text (value : List Char)
  | placeholder (name : List Char)
deriving DecidableEq, Repr

def pushText (character : Char) : List Piece → List Piece
  | .text value :: rest => .text (character :: value) :: rest
  | pieces => .text [character] :: pieces

def piecesFrom : (skip : Nat) → List Char → List Piece
  | _, [] => []
  | skip + 1, _ :: rest => piecesFrom skip rest
  | 0, character :: rest =>
      match placeholderAt? (character :: rest) with
      | some name => .placeholder name :: piecesFrom (name.length + 2) rest
      | none => pushText character (piecesFrom 0 rest)

def pieces (value : String) : List Piece := piecesFrom 0 value.toList

def placeholders (value : String) : List String :=
  (pieces value).filterMap fun
    | .text _ => none
    | .placeholder name => some (String.ofList name)

def Piece.toPart : Piece → Part
  | .text value => .text (String.ofList value)
  | .placeholder name => .insert (.reference (referenceName (String.ofList name)))

def templateParts (value : String) : List Part := (pieces value).map Piece.toPart

def resolveTemplate (value : String) : Expr := .template (templateParts value)

def resolve (value : String) : Expr :=
  if (placeholders value).isEmpty then .string value else resolveTemplate value

end LoadScript.Script
