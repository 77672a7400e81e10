import LoadScript.Script.Template

/-!
Reading the names of the properties of an object literal.
-/

namespace LoadScript.Script

inductive PropertyName where
  | bare (name : String)
  | quoted (value : String)
deriving DecidableEq, Repr

def PropertyName.key : PropertyName → String
  | .bare name => name
  | .quoted value => value

def skipSpace (text : List Char) : List Char := text.dropWhile isSpace

def stringContent? (mark : Char) : List Char → Option (List Char × List Char)
  | [] => none
  | '\\' :: character :: rest =>
      if isLineEnd character then none
      else (stringContent? mark rest).map fun read => ('\\' :: character :: read.1, read.2)
  | character :: rest =>
      if isLineEnd character then none
      else if character = mark then some ([], rest)
      else (stringContent? mark rest).map fun read => (character :: read.1, read.2)

def propertyName? : List Char → Option (PropertyName × List Char)
  | [] => none
  | first :: rest =>
      if startsName first then
        some (.bare (String.ofList (first :: rest.takeWhile continuesName)), rest.dropWhile continuesName)
      else if first = '\'' || first = '"' then do
        let (content, behind) ← stringContent? first rest
        let value ← unescape content
        pure (.quoted (String.ofList value), behind)
      else none

def closesObject (text : List Char) : Bool := skipSpace text = ['\x7d']

def propertyNames? : (values : List String) → List Char → Option (List PropertyName)
  | [], text => if closesObject text then some [] else none
  | value :: values, text => do
      let (name, named) ← propertyName? (skipSpace text)
      let assigned ← Text.dropStart? [':'] (skipSpace named)
      let valued ← Text.dropStart? (skipSpace value.toList) (skipSpace assigned)
      (Text.dropStart? [','] (skipSpace valued)).elim
        (if values.isEmpty && closesObject valued then some [name] else none)
        fun next => (propertyNames? values next).map (name :: ·)

def objectNames? (values : List String) (text : String) : Option (List PropertyName) :=
  (Text.dropStart? ['\x7b'] text.toList).bind (propertyNames? values)

example : objectNames? ["f(1, 2)", "0"] "\x7b a : f(1, 2), \"it's \\\"b\\\"\":0,\n\x7d" =
    some [.bare "a", .quoted "it's \"b\""] := by decide +kernel

def isPlainName : List Char → Bool
  | [] => false
  | first :: rest => isIdentifierStart first && rest.all isIdentifierPart

def fedName? (key : String) : Option String :=
  if key.toList.getLast? = some '\n' && isPlainName key.toList.dropLast then
    some (String.ofList key.toList.dropLast)
  else none

/-- How a key is written: with quotes, unless it is a name and they may be left out. A line feed behind a name
is lost with them. -/
def writtenName (quotesKeys : Bool) (key : String) : PropertyName :=
  if quotesKeys then .quoted key
  else
    match fedName? key with
    | some name => .bare name
    | none => if isPlainName key.toList then .bare key else .quoted key

end LoadScript.Script
