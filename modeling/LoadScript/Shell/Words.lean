/-!
How a POSIX shell reads the words of a command. Blanks part words, and quotes and backslashes take other characters
out of their use.
-/

namespace LoadScript.Shell

def isMark (character : Char) : Bool := "|&;<>()$\x60\\\"' \t\n*?[#~".toList.contains character

def startsExpansion (character : Char) : Bool := character = '$' || character = '\x60'

def isEscapable (character : Char) : Bool := "$\x60\"\\".toList.contains character

inductive Mode where
  | bare
  | escaped
  | single
  | double
  | doubleEscaped
deriving DecidableEq, Repr

structure State where
  words : List (List Char)
  word : Option (List Char)
  mode : Mode
deriving DecidableEq, Repr

namespace State

def start : State := ⟨[], none, .bare⟩

def push (state : State) (text : List Char) (mode : Mode) : State :=
  { state with word := some (state.word.getD [] ++ text), mode }

def step (state : State) (character : Char) : Option State :=
  match state.mode with
  | .bare =>
      if character = ' ' || character = '\t' then some ⟨state.words ++ state.word.toList, none, .bare⟩
      else if character = '\\' then some { state with mode := .escaped }
      else if character = '"' then some (state.push [] .double)
      else if character = '\'' then some (state.push [] .single)
      else if isMark character then none
      else some (state.push [character] .bare)
  | .escaped =>
      if character = '\n' then some { state with mode := .bare }
      else some (state.push [character] .bare)
  | .single =>
      if character = '\'' then some { state with mode := .bare }
      else some (state.push [character] .single)
  | .double =>
      if character = '"' then some { state with mode := .bare }
      else if character = '\\' then some { state with mode := .doubleEscaped }
      else if startsExpansion character then none
      else some (state.push [character] .double)
  | .doubleEscaped =>
      if character = '\n' then some { state with mode := .double }
      else if isEscapable character then some (state.push [character] .double)
      else some (state.push ['\\', character] .double)

def finish? (state : State) : Option (List (List Char)) :=
  if state.mode = .bare then some (state.words ++ state.word.toList) else none

end State

def wordsFrom (state : State) (text : List Char) : Option (List (List Char)) :=
  (text.foldlM State.step state).bind State.finish?

/-- The words of a text, if the shell takes all of it for words as they stand: it expands, substitutes and runs
nothing. -/
def words (text : String) : Option (List String) :=
  (wordsFrom .start text.toList).map (·.map String.ofList)

example : words "-e A=\"b \\\"c\\\" \\d\" 'e $f'" = some ["-e", "A=b \"c\" \\d", "e $f"] := by decide

end LoadScript.Shell
