import LoadScript.Text.Blank
import LoadScript.Text.Split

/-!
Finding flags and their arguments in a command. A flag stands at the start of the command or behind a
blank, blanks divide it from its argument, and a quoted argument ends at the next mark of its own kind.
-/

namespace LoadScript.Curl

open Text

def isQuote (character : Char) : Bool :=
  character = '\'' || character = '"'

/-- Everything that `read?` finds, from left to right. It is tried at the starts of tokens, `atStart`
tells whether this is one, and it gives what it found with the text behind it. The first `skip`
characters belong to what was found before. -/
def findAll {α : Type} (read? : List Char → Option (α × List Char)) (atStart : Bool) :
    (skip : Nat) → List Char → List α
  | _, [] => []
  | skip + 1, character :: rest => findAll read? (isBlank character) skip rest
  | 0, character :: rest =>
      match if atStart then read? (character :: rest) else none with
      | some (found, after) =>
          found :: findAll read? (isBlank character) (rest.length - after.length) rest
      | none => findAll read? (isBlank character) 0 rest

def finds {α : Type} (read? : List Char → Option (α × List Char)) (text : List Char) : List α :=
  findAll read? true 0 text

/-- Whether a character is the given small letter in either case; the long s counts as an s. -/
def sameLetter (letter character : Char) : Bool :=
  character.toLower = letter || (letter = 's' && character = 'ſ')

def dropWord? : (word text : List Char) → Option (List Char)
  | [], text => some text
  | _ :: _, [] => none
  | letter :: word, character :: text =>
      if sameLetter letter character then dropWord? word text else none

inductive FlagCase where
  | exact
  | either
deriving DecidableEq, Repr

def dropFlag? (letterCase : FlagCase) (name : String) (text : List Char) : Option (List Char) :=
  match letterCase with
  | .exact => dropStart? name.toList text
  | .either => dropWord? name.toList text

def argument? (letterCase : FlagCase) (names : List String) (text : List Char) :
    Option (List Char) :=
  names.findSome? fun name =>
    match dropFlag? letterCase name text with
    | some (blank :: rest) =>
        if isBlank blank then some (rest.dropWhile isBlank) else none
    | _ => none

def quoted? : List Char → Option (List Char × List Char)
  | mark :: rest => if isQuote mark then cut? mark rest else none
  | [] => none

def quotedArgument? (letterCase : FlagCase) (names : List String) (text : List Char) :
    Option (List Char × List Char) :=
  (argument? letterCase names text).bind quoted?

def quotedPair? (dropsBlanks : Bool) : List Char → Option ((List Char × List Char) × List Char)
  | mark :: rest =>
      if isQuote mark then
        let ends (character : Char) : Bool := character = ':' || isQuote character
        match rest.dropWhile (!ends ·) with
        | ':' :: value =>
            let value := if dropsBlanks then value.dropWhile isBlank else value
            (cut? mark value).map fun (value, after) =>
              ((rest.takeWhile (!ends ·), value), after)
        | _ => none
      else none
  | [] => none

def barePair? (text : List Char) : Option ((List Char × List Char) × List Char) :=
  let ends (character : Char) : Bool :=
    character = ':' || isQuote character || isBlank character
  match text.dropWhile (!ends ·) with
  | ':' :: value =>
      some ((text.takeWhile (!ends ·), value.takeWhile (!isBlank ·)),
        value.dropWhile (!isBlank ·))
  | _ => none

def quotedTexts : (skip : Nat) → List Char → List (List Char)
  | _, [] => []
  | skip + 1, _ :: rest => quotedTexts skip rest
  | 0, character :: rest =>
      let inside := rest.takeWhile (!isQuote ·)
      if isQuote character && inside != [] && inside.length < rest.length then
        inside :: quotedTexts (inside.length + 1) rest
      else quotedTexts 0 rest

end LoadScript.Curl
