import LoadScript.Script.Literal
import LoadScript.Text.Ranges

/-!
Reading script text as the tokens of JavaScript modules. White space and comments are left out, and the
text of literals is kept as it is spelled.

A slash that starts no comment is not read, so there are neither divisions nor regular expressions. Line
ends inside strings are not read either, escaped or not. What is read and is valid has the same tokens for an
engine.
-/

namespace LoadScript.Script

inductive Token where
  | word (text : List Char)
  | numeral (text : List Char)
  | punctuator (text : List Char)
  | string (mark : Char) (content : List Char)
  | template (opens closes : Bool) (content : List Char)
  | other (character : Char)
deriving DecidableEq, Repr

def Token.erased : Token → Token
  | .string mark _ => .string mark []
  | .template opens closes _ => .template opens closes []
  | token => token

def isLineEnd (character : Char) : Bool :=
  [0x0A, 0x0D, 0x2028, 0x2029].contains character.toNat

def spaceRanges : Text.Ranges := [
  (0x09, 0x0D), (0x20, 0x20), (0xA0, 0xA0), (0x1680, 0x1680), (0x2000, 0x200A), (0x2028, 0x2029),
  (0x202F, 0x202F), (0x205F, 0x205F), (0x3000, 0x3000), (0xFEFF, 0xFEFF)]

def isSpace (character : Char) : Bool := spaceRanges.contains character.toNat

def isWordStart (character : Char) : Bool :=
  isIdentifierStart character || (0x80 ≤ character.toNat && !isSpace character)

def isWordPart (character : Char) : Bool := isWordStart character || character.isDigit

def isLone (character : Char) : Bool := "()[]\x7b\x7d,;:~".toList.contains character

def punctuators : List (List Char) :=
  [">>>=", "...", "===", "!==", "**=", "<<=", ">>=", ">>>", "&&=", "||=", "??=", "=>", "==", "!=",
    "<=", ">=", "&&", "||", "??", "?.", "++", "--", "+=", "-=", "*=", "%=", "&=", "|=", "^=", "<<",
    ">>", "**", ".", "<", ">", "=", "!", "+", "-", "*", "%", "&", "|", "^", "?"].map String.toList

def startsPunctuator (text : List Char) : Bool := punctuators.any text.isPrefixOf

def punctuatorTokens (text : List Char) : List Token :=
  if text.isEmpty then []
  else if text = ['.', '.'] then [.punctuator ['.'], .punctuator ['.']]
  else [.punctuator text]

def continuesNumeral (text : List Char) (character : Char) : Bool :=
  isWordPart character ||
    (character = '.' && text.all fun digit => digit.isDigit || digit = '_') ||
    ((character = '+' || character = '-') && (text.getLast? = some 'e' || text.getLast? = some 'E') &&
      text.dropLast.all fun digit => digit.isDigit || digit = '_' || digit = '.')

inductive Mode where
  | between
  | word (text : List Char)
  | numeral (text : List Char)
  | punctuator (text : List Char)
  | slash
  | lineComment
  | blockComment (starred : Bool)
  | string (mark : Char) (content : List Char)
  | stringEscape (mark : Char) (content : List Char)
  | template (opens : Bool) (content : List Char)
  | templateEscape (opens : Bool) (content : List Char)
  | templateDollar (opens : Bool) (content : List Char)
deriving DecidableEq, Repr

/-- `insertions` counts the curly brackets that are open in each open insertion of a template, from the
innermost insertion outwards. -/
structure State where
  mode : Mode
  insertions : List Nat
deriving DecidableEq, Repr

namespace Mode

def pending : Mode → List Token
  | .word text => [.word text]
  | .numeral text => [.numeral text]
  | .punctuator text => punctuatorTokens text
  | _ => []

def extend? : Mode → Char → Option (List Token × Mode)
  | .word text, character =>
      if isWordPart character then some ([], .word (text ++ [character])) else none
  | .numeral text, character =>
      if continuesNumeral text character then some ([], .numeral (text ++ [character])) else none
  | .punctuator text, character =>
      if startsPunctuator (text ++ [character]) then some ([], .punctuator (text ++ [character]))
      else if character.isDigit && text.getLast? = some '.' && text != "...".toList then
        some (punctuatorTokens text.dropLast, .numeral ['.', character])
      else none
  | _, _ => none

end Mode

def openBracket : List Nat → List Nat
  | [] => []
  | count :: outer => (count + 1) :: outer

def start (insertions : List Nat) (character : Char) : List Token × State :=
  if isSpace character then ([], ⟨.between, insertions⟩)
  else if character = '/' then ([], ⟨.slash, insertions⟩)
  else if character = '\'' || character = '"' then ([], ⟨.string character [], insertions⟩)
  else if character = '\x60' then ([], ⟨.template true [], insertions⟩)
  else if character = '\x7b' then ([.punctuator [character]], ⟨.between, openBracket insertions⟩)
  else if character = '\x7d' then
    match insertions with
    | [] => ([.punctuator [character]], ⟨.between, []⟩)
    | 0 :: outer => ([], ⟨.template false [], outer⟩)
    | (count + 1) :: outer => ([.punctuator [character]], ⟨.between, count :: outer⟩)
  else if isLone character then ([.punctuator [character]], ⟨.between, insertions⟩)
  else if character.isDigit then ([], ⟨.numeral [character], insertions⟩)
  else if isWordStart character then ([], ⟨.word [character], insertions⟩)
  else if startsPunctuator [character] then ([], ⟨.punctuator [character], insertions⟩)
  else ([.other character], ⟨.between, insertions⟩)

def codeStep (mode : Mode) (insertions : List Nat) (character : Char) : List Token × State :=
  match mode.extend? character with
  | some (tokens, longer) => (tokens, ⟨longer, insertions⟩)
  | none =>
      let (tokens, next) := start insertions character
      (mode.pending ++ tokens, next)

def templateMode (opens : Bool) (content : List Char) (character : Char) : List Token × Mode :=
  if character = '\x60' then ([.template opens true content], .between)
  else if character = '\\' then ([], .templateEscape opens content)
  else if character = '$' then ([], .templateDollar opens content)
  else ([], .template opens (content ++ [character]))

def step (state : State) (character : Char) : Option (List Token × State) :=
  let insertions := state.insertions
  match state.mode with
  | .slash =>
      if character = '/' then some ([], ⟨.lineComment, insertions⟩)
      else if character = '*' then some ([], ⟨.blockComment false, insertions⟩)
      else none
  | .lineComment =>
      some ([], ⟨if isLineEnd character then .between else .lineComment, insertions⟩)
  | .blockComment starred =>
      some ([], ⟨if starred && character = '/' then .between else .blockComment (character = '*'),
        insertions⟩)
  | .string mark content =>
      if isLineEnd character then none
      else if character = mark then some ([.string mark content], ⟨.between, insertions⟩)
      else if character = '\\' then some ([], ⟨.stringEscape mark content, insertions⟩)
      else some ([], ⟨.string mark (content ++ [character]), insertions⟩)
  | .stringEscape mark content =>
      if isLineEnd character then none
      else some ([], ⟨.string mark (content ++ ['\\', character]), insertions⟩)
  | .template opens content =>
      let (tokens, mode) := templateMode opens content character
      some (tokens, ⟨mode, insertions⟩)
  | .templateEscape opens content =>
      some ([], ⟨.template opens (content ++ ['\\', character]), insertions⟩)
  | .templateDollar opens content =>
      if character = '\x7b' then some ([.template opens false content], ⟨.between, 0 :: insertions⟩)
      else
        let (tokens, mode) := templateMode opens (content ++ ['$']) character
        some (tokens, ⟨mode, insertions⟩)
  | mode => some (codeStep mode insertions character)

def finish (state : State) : Option (List Token) :=
  if state.insertions.isEmpty then
    match state.mode with
    | .between | .word _ | .numeral _ | .punctuator _ | .lineComment => some state.mode.pending
    | _ => none
  else none

def lexFrom (state : State) : List Char → Option (List Token)
  | [] => finish state
  | character :: rest => do
      let (tokens, next) ← step state character
      let others ← lexFrom next rest
      pure (tokens ++ others)

def lex (code : String) : Option (List Token) := lexFrom ⟨.between, []⟩ code.toList

def outline (code : String) : Option (List Token) := (lex code).map (·.map Token.erased)

end LoadScript.Script
