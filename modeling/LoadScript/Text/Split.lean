/-!
Cutting text at one character, and replacing or testing fixed pieces of it.
-/

namespace LoadScript.Text

variable {separator : Char} {text rest : List Char}

def splitAt (separator : Char) : List Char → List (List Char)
  | [] => [[]]
  | character :: rest =>
      if character = separator then [] :: splitAt separator rest
      else
        match splitAt separator rest with
        | [] => [[character]]
        | piece :: pieces => (character :: piece) :: pieces

theorem splitAt_cons_mark (separator : Char) (rest : List Char) :
    splitAt separator (separator :: rest) = [] :: splitAt separator rest := by
  rw [splitAt, if_pos rfl]

theorem splitAt_ne_nil (separator : Char) (text : List Char) : splitAt separator text ≠ [] := by
  cases text with
  | nil => simp [splitAt]
  | cons character text =>
      rw [splitAt]
      repeat' split
      all_goals exact List.cons_ne_nil _ _

def cut? (separator : Char) : List Char → Option (List Char × List Char)
  | [] => none
  | character :: rest =>
      if character = separator then some ([], rest)
      else (cut? separator rest).map fun (before, after) => (character :: before, after)

theorem cut?_eq_none_iff : cut? separator text = none ↔ separator ∉ text := by
  induction text with
  | nil => simp [cut?]
  | cons character text ih =>
      rw [cut?, List.mem_cons, not_or]
      split
      · next same => simp [same]
      · next other => simp [ih, Ne.symm other]

def dropStart? : (expected text : List Char) → Option (List Char)
  | [], text => some text
  | _ :: _, [] => none
  | wanted :: expected, character :: text =>
      if wanted = character then dropStart? expected text else none

theorem eq_append_of_dropStart? {letters text rest : List Char}
    (dropped : dropStart? letters text = some rest) : text = letters ++ rest := by
  fun_induction dropStart? letters text with
  | case1 text =>
      cases dropped
      rfl
  | case2 => cases dropped
  | case3 letters first text ih => rw [ih dropped, List.cons_append]
  | case4 => cases dropped

theorem dropStart?_eq_some_iff {letters text rest : List Char} :
    dropStart? letters text = some rest ↔ text = letters ++ rest := by
  refine ⟨eq_append_of_dropStart?, ?_⟩
  rintro rfl
  induction letters with
  | nil => rfl
  | cons letter letters ih => simpa [dropStart?] using ih

def startsWith (text : String) (expected : String) : Bool :=
  (dropStart? expected.toList text.toList).isSome

theorem startsWith_iff {text expected : String} :
    startsWith text expected = true ↔ expected.toList <+: text.toList := by
  rw [startsWith, Option.isSome_iff_exists]
  constructor
  · rintro ⟨rest, dropped⟩
    exact ⟨rest, (eq_append_of_dropStart? dropped).symm⟩
  · rintro ⟨rest, whole⟩
    exact ⟨rest, dropStart?_eq_some_iff.mpr whole.symm⟩

end LoadScript.Text
