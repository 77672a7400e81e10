import LoadScript.Text.Identifier

/-!
The names that a module may declare.
-/

namespace LoadScript.Script

def reservedWords : List String := [
  "arguments", "await", "break", "case", "catch", "class", "const", "continue", "debugger", "default",
  "delete", "do", "else", "enum", "eval", "export", "extends", "false", "finally", "for", "function", "if",
  "implements", "import", "in", "instanceof", "interface", "let", "new", "null", "package", "private",
  "protected", "public", "return", "static", "super", "switch", "this", "throw", "true", "try", "typeof",
  "var", "void", "while", "with", "yield"]

def startsName (character : Char) : Bool :=
  Text.isLetterLike character || character = '$' || character = '_'

def continuesName (character : Char) : Bool :=
  Text.continuesLetters character || character = '$' || character.toNat = 0x200C ||
    character.toNat = 0x200D

def isIdentifier (name : String) : Bool :=
  match name.toList with
  | [] => false
  | first :: rest => startsName first && rest.all continuesName && !reservedWords.contains name

example : isIdentifier "extractedVars" = true ∧ isIdentifier "API-KEY" = false := by decide

end LoadScript.Script
