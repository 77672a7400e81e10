import LoadScript.Curl.Scan

/-!
The starts of tokens: what stands in a text where a flag may stand.
-/

namespace LoadScript.Curl

open Text

def startBehind (atStart : Bool) (text : List Char) : Bool :=
  text.foldl (fun _ character => isBlank character) atStart

def AtTokens (holds : List Char → Prop) : (atStart : Bool) → List Char → Prop
  | _, [] => True
  | atStart, character :: rest =>
      (atStart = true → holds (character :: rest)) ∧ AtTokens holds (isBlank character) rest

instance AtTokens.decidable {holds : List Char → Prop} [DecidablePred holds] :
    (atStart : Bool) → (text : List Char) → Decidable (AtTokens holds atStart text)
  | _, [] => isTrue trivial
  | atStart, character :: rest =>
      have : Decidable (AtTokens holds (isBlank character) rest) := AtTokens.decidable _ rest
      inferInstanceAs (Decidable ((atStart = true → holds (character :: rest)) ∧
        AtTokens holds (isBlank character) rest))

def HasNoFlag (atStart : Bool) (text : List Char) : Prop :=
  AtTokens (fun rest => rest.head? ≠ some '-') atStart text

instance (atStart : Bool) (text : List Char) : Decidable (HasNoFlag atStart text) :=
  AtTokens.decidable atStart text

def IsUnquoted (text : List Char) : Prop := ∀ character ∈ text, isQuote character = false

instance (text : List Char) : Decidable (IsUnquoted text) := List.decidableBAll _ text

def readBehind {α : Type} (letterCase : FlagCase) (names : List String)
    (read? : List Char → Option (α × List Char)) (text : List Char) : Option (α × List Char) :=
  (argument? letterCase names text).bind read?

def ReadsNothing {α : Type} (read? : List Char → Option (α × List Char)) (atStart : Bool)
    (text : List Char) : Prop :=
  AtTokens (fun rest => read? rest = none) atStart text

instance {α : Type} (read? : List Char → Option (α × List Char)) (atStart : Bool) (text : List Char) :
    Decidable (ReadsNothing read? atStart text) :=
  AtTokens.decidable atStart text

end LoadScript.Curl
