/-!
Line ends: splitting text into lines, and giving every line the same end.
-/

namespace LoadScript.Text

def endsLine (character : Char) : Bool :=
  [0x0A, 0x0B, 0x0C, 0x0D, 0x1C, 0x1D, 0x1E, 0x85, 0x2028, 0x2029].contains character.toNat

def pushFront (character : Char) : List (List Char) → List (List Char)
  | [] => [[character]]
  | line :: lines => (character :: line) :: lines

/-- The lines without their ends. A carriage return and a line feed together end one line, and an end
at the end of the text opens no further line. -/
def linesOf : List Char → List (List Char)
  | [] => []
  | '\r' :: '\n' :: rest => [] :: linesOf rest
  | character :: rest =>
      if endsLine character then [] :: linesOf rest else pushFront character (linesOf rest)

theorem linesOf_cons {character : Char} {rest : List Char}
    (apart : character = '\r' → rest.head? ≠ some '\n') :
    linesOf (character :: rest) =
      if endsLine character then [] :: linesOf rest else pushFront character (linesOf rest) := by
  rw [linesOf]
  intro others carriage feed
  exact apart carriage (by rw [feed]; rfl)

def lines (text : String) : List String :=
  (linesOf text.toList).map String.ofList

def unifyLineEndsOf : List Char → List Char
  | [] => []
  | '\r' :: '\n' :: rest => '\n' :: unifyLineEndsOf rest
  | character :: rest => (if character = '\r' then '\n' else character) :: unifyLineEndsOf rest

theorem unifyLineEndsOf_cons {character : Char} {rest : List Char}
    (apart : character = '\r' → rest.head? ≠ some '\n') :
    unifyLineEndsOf (character :: rest) =
      (if character = '\r' then '\n' else character) :: unifyLineEndsOf rest := by
  rw [unifyLineEndsOf]
  intro others carriage feed
  exact apart carriage (by rw [feed]; rfl)

def unifyLineEnds (text : String) : String :=
  String.ofList (unifyLineEndsOf text.toList)

end LoadScript.Text
