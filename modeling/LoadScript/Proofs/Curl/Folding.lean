import LoadScript.Curl.Import
import LoadScript.Proofs.Curl.Arguments

/-!
The command of a text: its lines joined, without the blanks around it.
-/

namespace LoadScript.Curl

open Text

theorem joinLines_append {character : Char} (feed : character ≠ '\n') (carriage : character ≠ '\r')
    (text rest : List Char) :
    joinLines (text ++ character :: rest) = joinLines text ++ joinLines (character :: rest) := by
  fun_induction joinLines text with
  | case1 => rfl
  | case2 text ih => simp [joinLines, ih]
  | case3 text ih => simp [joinLines, ih]
  | case4 first text carriageEnd feedEnd ih =>
      rw [List.cons_append, joinLines, ih]
      · rfl
      · intro others backslash following
        cases text with
        | nil => exact carriage (List.cons.inj following).1
        | cons second text =>
            cases text with
            | nil => exact feed (List.cons.inj (List.cons.inj following).2).1
            | cons third text =>
                cases following
                exact carriageEnd _ backslash rfl
      · intro others backslash following
        cases text with
        | nil => exact feed (List.cons.inj following).1
        | cons second text =>
            cases following
            exact feedEnd _ backslash rfl

theorem mem_joinLines {character : Char} {text : List Char} (found : character ∈ joinLines text) :
    character ∈ text ∨ character = ' ' := by
  fun_induction joinLines text with
  | case1 => cases found
  | case2 text ih =>
      rcases List.mem_cons.mp found with blank | inside
      · exact .inr blank
      · exact (ih inside).imp_left fun member => by simp [member]
  | case3 text ih =>
      rcases List.mem_cons.mp found with blank | inside
      · exact .inr blank
      · exact (ih inside).imp_left fun member => by simp [member]
  | case4 first text _ _ ih =>
      rcases List.mem_cons.mp found with here | inside
      · exact .inl (by simp [here])
      · exact (ih inside).imp_left fun member => by simp [member]

theorem joinLines_of_noFeed {text : List Char} (noFeed : '\n' ∉ text) : joinLines text = text := by
  fun_induction joinLines text with
  | case1 => rfl
  | case2 text ih => simp at noFeed
  | case3 text ih => simp at noFeed
  | case4 first text _ _ ih =>
      rw [List.mem_cons, not_or] at noFeed
      rw [ih noFeed.2]

theorem joinLines_cons {character : Char} (plain : character ≠ '\\') (rest : List Char) :
    joinLines (character :: rest) = character :: joinLines rest := by
  rw [joinLines]
  · intro others same
    exact absurd same plain
  · intro others same
    exact absurd same plain

theorem joinLines_plain {text : List Char} (plain : '\\' ∉ text) (rest : List Char) :
    joinLines (text ++ rest) = text ++ joinLines rest := by
  induction text with
  | nil => rfl
  | cons character text ih =>
      rw [List.mem_cons, not_or] at plain
      rw [List.cons_append, joinLines_cons (fun same => plain.1 same.symm), ih plain.2]
      rfl

/-- A text that does not end within a line break is joined apart from what follows. -/
theorem joinLines_append_of_ends {text : List Char}
    (ends : ∀ before last, text = before ++ [last] → last ≠ '\\' ∧ last ≠ '\r') (rest : List Char) :
    joinLines (text ++ rest) = joinLines text ++ joinLines rest := by
  fun_induction joinLines text with
  | case1 => rfl
  | case2 text ih =>
      rw [List.cons_append, List.cons_append, List.cons_append, joinLines, ih]
      · rfl
      · rintro before last rfl
        exact ends ('\\' :: '\r' :: '\n' :: before) last rfl
  | case3 text ih =>
      rw [List.cons_append, List.cons_append, joinLines, ih]
      · rfl
      · rintro before last rfl
        exact ends ('\\' :: '\n' :: before) last rfl
  | case4 first text carriageEnd feedEnd ih =>
      rw [List.cons_append, joinLines, ih]
      · rfl
      · rintro before last rfl
        exact ends (first :: before) last rfl
      · rintro others rfl following
        cases text with
        | nil => exact (ends [] '\\' rfl).1 rfl
        | cons second text =>
            cases text with
            | nil =>
                cases following
                exact (ends ['\\'] '\r' rfl).2 rfl
            | cons third text =>
                cases following
                exact carriageEnd _ rfl rfl
      · rintro others rfl following
        cases text with
        | nil => exact (ends [] '\\' rfl).1 rfl
        | cons second text =>
            cases following
            exact feedEnd _ rfl rfl

theorem plain_of_isQuote {mark : Char} (quote : isQuote mark = true) :
    mark ≠ '\n' ∧ mark ≠ '\r' ∧ mark ≠ '\\' := by
  simp only [isQuote, Bool.or_eq_true, decide_eq_true_eq] at quote
  rcases quote with rfl | rfl <;> decide

/-- What stands in front of a mark loses only the blanks before it. -/
theorem commandOf_append {mark : Char} (quote : isQuote mark = true) (text rest : List Char) :
    commandOf (text ++ mark :: rest) =
      (joinLines text).dropWhile isBlank ++ mark :: dropEndWhile isBlank (joinLines rest) := by
  obtain ⟨feed, carriage, backslash⟩ := plain_of_isQuote quote
  rw [commandOf, joinLines_append feed carriage, joinLines_cons backslash, trimChars,
    dropWhile_append_mark quote, dropEndWhile_append_cons (isBlank_of_isQuote quote)]

end LoadScript.Curl
