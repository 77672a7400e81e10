import LoadScript.Proofs.Curl.Flags

/-!
Arguments between marks, and what stands in them.
-/

namespace LoadScript.Curl

open Text

variable {mark : Char} {text rest : List Char}

theorem isBlank_of_isQuote (quote : isQuote mark = true) : isBlank mark = false := by
  simp only [isQuote, Bool.or_eq_true, decide_eq_true_eq] at quote
  rcases quote with rfl | rfl <;> decide

theorem IsUnquoted.not_mem (unquoted : IsUnquoted text) (quote : isQuote mark = true) : mark ∉ text :=
  fun found => by simp [unquoted mark found] at quote

theorem IsUnquoted.dropWhile {kind : Char → Bool} (unquoted : IsUnquoted text) :
    IsUnquoted (text.dropWhile kind) :=
  fun character found => unquoted character ((List.dropWhile_sublist kind).subset found)

theorem dropWhile_append_mark (quote : isQuote mark = true) (text rest : List Char) :
    (text ++ mark :: rest).dropWhile isBlank = text.dropWhile isBlank ++ mark :: rest :=
  dropWhile_append_stop (isBlank_of_isQuote quote) text rest

theorem behindBlanks?_append_mark (quote : isQuote mark = true) (behind rest : List Char) :
    behindBlanks? (behind ++ mark :: rest) = (behindBlanks? behind).map (· ++ mark :: rest) := by
  cases behind with
  | nil => simp [behindBlanks?, isBlank_of_isQuote quote]
  | cons blank behind =>
      rw [List.cons_append, behindBlanks?, behindBlanks?, dropWhile_append_mark quote]
      split <;> rfl

/-- Where an argument begins is decided in front of the first mark behind its flag. -/
theorem argument?_append_mark {letterCase : FlagCase} {names : List String}
    (flags : ∀ name ∈ names, IsFlag name) (quote : isQuote mark = true) (text rest : List Char) :
    argument? letterCase names (text ++ mark :: rest) =
      (argument? letterCase names text).map (· ++ mark :: rest) := by
  induction names with
  | nil => rfl
  | cons name names ih =>
      rw [List.forall_mem_cons] at flags
      rw [argument?_cons, argument?_cons, ih flags.2,
        dropFlag?_append flags.1 (by simp [isBoundary, quote])]
      cases dropFlag? letterCase name text with
      | none => rfl
      | some behind =>
          simp only [Option.map_some, Option.bind_some, behindBlanks?_append_mark quote]
          cases behindBlanks? behind <;> rfl

theorem quoted?_mark (quote : isQuote mark = true) (unquoted : IsUnquoted text) (rest : List Char) :
    quoted? (mark :: text ++ mark :: rest) = some (text, rest) := by
  rw [List.cons_append, quoted?, if_pos quote, cut?_mark (unquoted.not_mem quote)]

def pair? (dropsBlanks : Bool) (text : List Char) : Option (List Char × List Char) :=
  (cut? ':' text).map fun (key, value) =>
    (key, if dropsBlanks then value.dropWhile isBlank else value)

def isKeyPart (character : Char) : Bool := !(decide (character = ':') || isQuote character)

theorem quotedPair?_colon (quote : isQuote mark = true) (dropsBlanks : Bool) {key : List Char}
    (plain : ∀ character ∈ key, isKeyPart character = true) (value : List Char) :
    quotedPair? dropsBlanks (mark :: (key ++ ':' :: value)) =
      (cut? mark (if dropsBlanks then value.dropWhile isBlank else value)).map fun parts =>
        ((key, parts.1), parts.2) := by
  have closes : StopsAt isKeyPart (':' :: value) := by simp [isKeyPart]
  have dropped := dropWhile_run plain closes
  have taken := takeWhile_run plain closes
  unfold isKeyPart at dropped taken
  rw [quotedPair?, if_pos quote]
  simp only [dropped, taken]

theorem quotedPair?_none (quote : isQuote mark = true) (dropsBlanks : Bool) {run rest : List Char}
    (plain : ∀ character ∈ run, isKeyPart character = true) (closes : StopsAt isKeyPart rest)
    (uncut : rest.head? ≠ some ':') : quotedPair? dropsBlanks (mark :: (run ++ rest)) = none := by
  have dropped := dropWhile_run plain closes
  unfold isKeyPart at dropped
  rw [quotedPair?, if_pos quote]
  simp only [dropped]
  split
  · next same => exact absurd rfl uncut
  · rfl

theorem quotedPair?_mark (quote : isQuote mark = true) (unquoted : IsUnquoted text)
    (dropsBlanks : Bool) (rest : List Char) :
    quotedPair? dropsBlanks (mark :: text ++ mark :: rest) =
      (pair? dropsBlanks text).map fun pair => (pair, rest) := by
  have apart : mark ≠ ':' := by
    rintro rfl
    exact absurd quote (by decide)
  rw [List.cons_append, pair?]
  cases cut : cut? ':' text with
  | none =>
      have plain : ∀ character ∈ text, isKeyPart character = true := by
        intro character found
        have uncut : character ≠ ':' := by
          rintro rfl
          exact cut?_eq_none_iff.mp cut found
        simp [isKeyPart, uncut, unquoted character found]
      exact quotedPair?_none quote dropsBlanks plain (by simp [isKeyPart, quote]) (by simp [apart])
  | some parts =>
      obtain ⟨key, value⟩ := parts
      obtain ⟨rfl, absent⟩ := eq_of_cut? cut
      have plain : ∀ character ∈ key, isKeyPart character = true := by
        intro character found
        have uncut : character ≠ ':' := fun same => absent (same ▸ found)
        simp [isKeyPart, uncut, unquoted character (List.mem_append_left _ found)]
      have valueUnquoted : IsUnquoted value := fun character found =>
        unquoted character (List.mem_append_right _ (List.mem_cons_of_mem _ found))
      rw [List.append_assoc, List.cons_append, quotedPair?_colon quote dropsBlanks plain]
      cases dropsBlanks with
      | false => simp [cut?_mark (valueUnquoted.not_mem quote)]
      | true =>
          simp [dropWhile_append_mark quote, cut?_mark (valueUnquoted.dropWhile.not_mem quote)]

def isBareKeyPart (character : Char) : Bool :=
  !(decide (character = ':') || isQuote character || isBlank character)

theorem barePair?_colon {key : List Char} (plain : ∀ character ∈ key, isBareKeyPart character = true)
    (value : List Char) :
    barePair? (key ++ ':' :: value) =
      some ((key, value.takeWhile (!isBlank ·)), value.dropWhile (!isBlank ·)) := by
  have closes : StopsAt isBareKeyPart (':' :: value) := by simp [isBareKeyPart]
  have dropped := dropWhile_run plain closes
  have taken := takeWhile_run plain closes
  unfold isBareKeyPart at dropped taken
  rw [barePair?]
  simp only [dropped, taken]

theorem barePair?_none {run rest : List Char}
    (plain : ∀ character ∈ run, isBareKeyPart character = true) (closes : StopsAt isBareKeyPart rest)
    (uncut : rest.head? ≠ some ':') : barePair? (run ++ rest) = none := by
  have dropped := dropWhile_run plain closes
  unfold isBareKeyPart at dropped
  rw [barePair?]
  simp only [dropped]
  split
  · next same => exact absurd rfl uncut
  · rfl

theorem barePair?_mark (quote : isQuote mark = true) (rest : List Char) :
    barePair? (mark :: rest) = none := by
  have apart : mark ≠ ':' := by
    rintro rfl
    exact absurd quote (by decide)
  have nothing : ∀ character ∈ [], isBareKeyPart character = true := by simp
  exact barePair?_none nothing (by simp [isBareKeyPart, quote]) (by simp [apart])

end LoadScript.Curl
