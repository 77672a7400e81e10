import LoadScript.Text.Blank
import LoadScript.Text.Case
import LoadScript.Text.Columns
import LoadScript.Text.Split

/-!
The console of the standard platform. Messages have style tags in square brackets, and come out as the plain text
that a terminal shows of them. All other text comes out without the sequences that switch a terminal's styles.
-/

namespace LoadScript.CommandLine

inductive Markup where
  | text (value : List Char)
  | opening (style : List Char)
  | closing (style : List Char)
deriving DecidableEq, Repr

def startsTag (character : Char) : Bool :=
  character.isLower || character = '#' || character = '/' || character = '@'

def tag? : List Char → Option (List Char × List Char)
  | first :: rest =>
      if startsTag first then
        match rest.dropWhile fun character => character != '[' && character != ']' with
        | ']' :: after =>
            some (first :: rest.takeWhile (fun character => character != '[' && character != ']'),
              after)
        | _ => none
      else none
  | [] => none

def markupOf (inside : List Char) : Markup :=
  let style := inside.takeWhile (· != '=')
  match style with
  | '/' :: style => .closing style
  | style => .opening style

/-- Takes marked-up text apart. Of the backslashes in front of a tag each pair stands for one, and an odd
one makes the tag plain text. `slashes` counts the backslashes just before, and `skip` characters were
read already. -/
def markups (slashes : Nat) : (skip : Nat) → List Char → List Markup
  | _, [] => [.text (List.replicate slashes '\\')]
  | skip + 1, _ :: rest => markups slashes skip rest
  | 0, character :: rest =>
      if character = '\\' then markups (slashes + 1) 0 rest
      else
        match if character = '[' then tag? rest else none with
        | some (inside, _) =>
            let found :=
              if slashes % 2 = 0 then markupOf inside else .text ('[' :: inside ++ [']'])
            .text (List.replicate (slashes / 2) '\\') :: found :: markups 0 (inside.length + 1) rest
        | none =>
            let kept := if character = '[' then slashes - 1 else slashes
            .text (List.replicate kept '\\' ++ [character]) :: markups 0 0 rest

inductive MarkupError where
  | nothingToClose (style : String)
deriving DecidableEq, Repr

def MarkupError.message : MarkupError → String
  | .nothingToClose style => "No open tag for the closing tag [/" ++ style ++ "]"

def styleName (style : List Char) : String :=
  Text.lower (String.ofList (Text.trimChars style))

def close (styles : List String) (style : List Char) : Except MarkupError (List String) :=
  let name := styleName style
  if name = "" then
    match styles with
    | [] => .error (.nothingToClose name)
    | _ :: styles => .ok styles
  else if styles.contains name then .ok (styles.erase name)
  else .error (.nothingToClose name)

def plainFrom (styles : List String) : List Markup → Except MarkupError (List Char)
  | [] => .ok []
  | .text value :: rest => do pure (value ++ (← plainFrom styles rest))
  | .opening style :: rest => plainFrom (styleName style :: styles) rest
  | .closing style :: rest => do plainFrom (← close styles style) rest

def isTerminalControl (character : Char) : Bool :=
  [7, 8, 11, 12, 13].contains character.toNat

def tabWidth : Nat := 8

def joinAtTabStops (column : Nat) : List (List Char) → List Char
  | [] => []
  | [last] => last
  | part :: rest =>
      let part := part ++ [' ']
      let column := column + Text.columns part
      let fill := (tabWidth - column % tabWidth) % tabWidth
      part ++ List.replicate fill ' ' ++ joinAtTabStops (column + fill) rest

def expandTabs (text : List Char) : List Char :=
  List.intercalate ['\n'] ((Text.splitAt '\n' text).map fun line =>
    joinAtTabStops 0 (Text.splitAt '\t' line))

def plainText (message : String) : Except MarkupError String := do
  let characters ←
    if message.toList.contains '[' then plainFrom [] (markups 0 0 message.toList)
    else pure message.toList
  pure (String.ofList (expandTabs (characters.filter (!isTerminalControl ·))))

def escapeCharacter : Char := Char.ofNat 0x1B

def isStyleParameter (character : Char) : Bool :=
  character.isDigit || character = ';' || character = '?'

def styleLength? : List Char → Option Nat
  | '[' :: rest =>
      match rest.dropWhile isStyleParameter with
      | letter :: _ =>
          if letter.isAlpha then some ((rest.takeWhile isStyleParameter).length + 2) else none
      | [] => none
  | _ => none

def dropStyles : (skip : Nat) → List Char → List Char
  | _, [] => []
  | skip + 1, _ :: rest => dropStyles skip rest
  | 0, character :: rest =>
      match if character = escapeCharacter then styleLength? rest else none with
      | some length => dropStyles length rest
      | none => character :: dropStyles 0 rest

def unstyled (text : String) : String := String.ofList (dropStyles 0 text.toList)

end LoadScript.CommandLine
