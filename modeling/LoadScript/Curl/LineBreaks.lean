import LoadScript.Curl.Import
import LoadScript.Curl.Tokens

/-!
Commands spread over lines: stretches of text, and between them white space or a broken line.
-/

namespace LoadScript.Curl

open Text

inductive MarkState where
  | outside
  | opened
  | inside
deriving DecidableEq, Repr

/-- Between two marks there is at least one character, and a mark directly behind another opens again. -/
def MarkState.after (state : MarkState) (character : Char) : MarkState :=
  match state, isQuote character with
  | .outside, false => .outside
  | .outside, true => .opened
  | .opened, false => .inside
  | .opened, true => .opened
  | .inside, false => .inside
  | .inside, true => .outside

def MarkState.behind (state : MarkState) (text : List Char) : MarkState :=
  text.foldl MarkState.after state

def IsClosed : (argument : List Char) → Prop
  | [] => True
  | first :: others => isQuote first = true → first ∈ others

instance : (argument : List Char) → Decidable (IsClosed argument)
  | [] => isTrue trivial
  | first :: others => inferInstanceAs (Decidable (isQuote first = true → first ∈ others))

def Completes (letterCase : FlagCase) (names : List String) (text : List Char) : Prop :=
  AtTokens (fun rest => ∀ argument ∈ argument? letterCase names (rest ++ [' ']),
    argument ≠ [] ∧ IsClosed argument) true text

instance (letterCase : FlagCase) (names : List String) (text : List Char) :
    Decidable (Completes letterCase names text) :=
  AtTokens.decidable true text

structure Stretch where
  text : List Char
  blanks : List Char
  carriage : Bool
  indent : Nat
deriving DecidableEq, Repr

namespace Stretch

def feed (stretch : Stretch) : List Char :=
  (if stretch.carriage then ['\r'] else []) ++ '\n' :: List.replicate stretch.indent ' '

def lineBreak (stretch : Stretch) : List Char := ' ' :: '\\' :: stretch.feed

/-- Stretches that may be followed by a broken line: outside of marks, and with the whole argument of each
flag that is looked for in the lines as they are. -/
structure IsWhole (stretch : Stretch) : Prop where
  spaced : stretch.blanks ≠ []
  blank : ∀ character ∈ stretch.blanks, isBlank character = true
  ends : ∀ last ∈ stretch.text.getLast?, isBlank last = false ∧ last ≠ '\\'
  marks : MarkState.behind .outside stretch.text = .outside
  headers : Completes .exact ["--header", "-H"] stretch.text
  users : Completes .exact ["--user", "-u"] stretch.text
  rawBodies : Completes .either ["--data-raw"] stretch.text
  bodies : Completes .either ["--data", "-d"] stretch.text
  forms : Completes .exact ["--form", "-F"] stretch.text

end Stretch

def spread (gap : Stretch → List Char) (stretches : List Stretch) (last : List Char) : List Char :=
  stretches.flatMap (fun stretch => stretch.text ++ gap stretch) ++ last

end LoadScript.Curl
