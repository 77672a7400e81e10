import LoadScript.Proofs.Script.Lexing
import LoadScript.Script.Numbers
import LoadScript.Script.Value

/-!
Where placeholders stand, which templates resolved values are, and that their tokens show nothing of a value but
its placeholders.
-/

namespace LoadScript.Script

def Piece.name? : Piece → Option String
  | .text _ => none
  | .placeholder name => some (String.ofList name)

theorem placeholders_eq (value : String) :
    placeholders value = (pieces value).filterMap Piece.name? := rfl

theorem name?_pushText (character : Char) (pieces : List Piece) :
    (pushText character pieces).filterMap Piece.name? = pieces.filterMap Piece.name? := by
  fun_cases pushText character pieces <;> rfl

theorem placeholders_append {start : String} (noDollar : ∀ character ∈ start.toList, character ≠ '$')
    (value : String) : placeholders (start ++ value) = placeholders value := by
  simp only [placeholders_eq, pieces, String.toList_append]
  generalize start.toList = characters at noDollar
  induction characters with
  | nil => rfl
  | cons character others ih =>
      have first : character ≠ '$' := noDollar character (by simp)
      have unread : placeholderAt? (character :: (others ++ value.toList)) = none := by
        rw [placeholderAt?.eq_def]
        split
        · next same => exact absurd (List.cons.inj same).1 first
        · rfl
      rw [List.cons_append, piecesFrom, unread]
      simp only [name?_pushText]
      exact ih fun other member => noDollar other (by simp [member])

/-! Places of placeholders. -/

theorem IsPlaceholderName.all {name : List Char} (isName : IsPlaceholderName name) :
    ∀ character ∈ name, isNamePart character = true := by
  cases name with
  | nil => exact isName.elim
  | cons first rest => exact List.forall_mem_cons.mpr ⟨by simp [isNamePart, isName.1], isName.2⟩

theorem placeholderAt?_eq_some_iff {text name : List Char} :
    placeholderAt? text = some name ↔ IsPlaceholderName name ∧ placeholderText name <+: text := by
  constructor
  · intro found
    rw [placeholderAt?.eq_def] at found
    split at found
    · next first rest =>
        split at found
        · next isName =>
            cases found
            simp only [Bool.and_eq_true, decide_eq_true_eq, List.head?_eq_some_iff] at isName
            obtain ⟨isStart, more, behind⟩ := isName
            refine ⟨⟨isStart, List.all_eq_true.mp List.all_takeWhile⟩, more, ?_⟩
            have whole : rest.takeWhile isNamePart ++ rest.dropWhile isNamePart = rest :=
              List.takeWhile_append_dropWhile
            rw [behind] at whole
            simp [placeholderText, whole]
        · cases found
    · cases found
  · rintro ⟨isName, more, rfl⟩
    cases name with
    | nil => exact absurd isName id
    | cons first rest =>
        have stops : Text.StopsAt isNamePart ('\x7d' :: more) := Text.stopsAt_cons.mpr (by decide)
        have characters : placeholderText (first :: rest) ++ more =
            '$' :: '\x7b' :: first :: (rest ++ '\x7d' :: more) := by simp [placeholderText]
        rw [characters, placeholderAt?, Text.takeWhile_run isName.2 stops, Text.dropWhile_run isName.2 stops,
          isName.1]
        rfl

theorem placeholderAt?_name {text name : List Char} (found : placeholderAt? text = some name) :
    ∀ character ∈ name, isNamePart character = true :=
  (placeholderAt?_eq_some_iff.mp found).1.all

/-! Templates of resolved values are safe. -/

theorem isVerbatim_referenceName {name : List Char}
    (all : ∀ character ∈ name, isNamePart character = true) :
    IsVerbatim true (referenceName (String.ofList name)) := by
  have named : IsVerbatim true (String.ofList name) :=
    isVerbatim_of_kind isNamePart (by decide) (by simpa using all) true
  rw [referenceName]
  split
  · exact named
  · rw [chained, isVerbatim_append]
    exact ⟨by decide, named⟩

theorem partsAreSafe_pushText (character : Char) (pieces : List Piece) :
    PartsAreSafe ((pushText character pieces).map Piece.toPart) ↔
      PartsAreSafe (pieces.map Piece.toPart) := by
  fun_cases pushText character pieces with
  | case1 value rest => simp [Piece.toPart, PartsAreSafe]
  | case2 pieces noText =>
      cases pieces with
      | nil => simp [Piece.toPart, PartsAreSafe]
      | cons piece rest =>
          cases piece with
          | text value => exact absurd rfl (noText value rest)
          | placeholder name => simp [Piece.toPart, PartsAreSafe]

theorem partsAreSafe_piecesFrom (skip : Nat) (text : List Char) :
    PartsAreSafe ((piecesFrom skip text).map Piece.toPart) := by
  fun_induction piecesFrom skip text with
  | case1 => simp [PartsAreSafe]
  | case2 skip character rest ih => exact ih
  | case3 character rest name found ih =>
      rw [List.map_cons, Piece.toPart, PartsAreSafe]
      exact ⟨isVerbatim_referenceName (placeholderAt?_name found), ih⟩
  | case4 character rest none ih => exact (partsAreSafe_pushText character _).mpr ih

theorem resolveTemplate_isSafe (inserted : Bool) (value : String) :
    (resolveTemplate value).IsSafe inserted := by
  rw [resolveTemplate, Expr.IsSafe]
  exact partsAreSafe_piecesFrom 0 value.toList

theorem resolve_isSafe (inserted : Bool) (value : String) : (resolve value).IsSafe inserted := by
  rw [resolve]
  split
  · trivial
  · exact resolveTemplate_isSafe inserted value

/-! Resolved values show no numbers. -/

theorem partNumbers_pieces (pieces : List Piece) : partNumbers (pieces.map Piece.toPart) = [] := by
  induction pieces with
  | nil => rfl
  | cons piece rest ih => cases piece <;> simpa [partNumbers, Piece.toPart, Expr.numbers] using ih

theorem resolveTemplate_numbers (value : String) : (resolveTemplate value).numbers = [] :=
  partNumbers_pieces _

theorem resolve_numbers (value : String) : (resolve value).numbers = [] := by
  rw [resolve]
  split
  · rfl
  · exact resolveTemplate_numbers value

/-- Only a text without a placeholder is resolved to a plain string, and to itself. -/
theorem resolve_eq_string_iff {value text : String} :
    resolve value = .string text ↔ (placeholders value).isEmpty = true ∧ value = text := by
  rw [resolve]
  split
  · next plain => simp [plain]
  · next inserts => simp [resolveTemplate, inserts]

end LoadScript.Script
