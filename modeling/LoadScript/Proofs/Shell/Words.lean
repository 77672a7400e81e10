import LoadScript.Shell.Words

/-!
What a shell reads of texts that are written for it: text without marks as it stands, and between double quotes a
value with backslashes in it, as long as nothing in the value starts an expansion.
-/

namespace LoadScript.Shell

open State

def IsBare (text : String) : Prop := ∀ character ∈ text.toList, isMark character = false

def Expands (text : String) : Prop := ∃ character ∈ text.toList, startsExpansion character = true

instance (text : String) : Decidable (IsBare text) := List.decidableBAll _ text.toList

instance (text : String) : Decidable (Expands text) := List.decidableBEx _ text.toList

variable {words : List (List Char)} {character : Char}

theorem wordsFrom_append (state : State) (text rest : List Char) :
    wordsFrom state (text ++ rest) = (text.foldlM step state).bind fun next => wordsFrom next rest := by
  simp only [wordsFrom, List.foldlM_append, Option.bind_eq_bind, Option.bind_assoc]

theorem step_bare (word : Option (List Char)) (plain : isMark character = false) :
    step ⟨words, word, .bare⟩ character = some ⟨words, some (word.getD [] ++ [character]), .bare⟩ := by
  have other (mark : Char) (isMark : Shell.isMark mark = true) : character ≠ mark := by
    rintro rfl
    rw [isMark] at plain
    cases plain
  simp [step, push, plain, other ' ' (by decide), other '\t' (by decide), other '\\' (by decide),
    other '"' (by decide), other '\'' (by decide)]

theorem foldlM_bare {text : List Char} (plain : ∀ character ∈ text, isMark character = false)
    (nonempty : text ≠ []) (word : Option (List Char)) :
    text.foldlM step ⟨words, word, .bare⟩ = some ⟨words, some (word.getD [] ++ text), .bare⟩ := by
  induction text generalizing word with
  | nil => contradiction
  | cons character rest ih =>
      rw [List.forall_mem_cons] at plain
      rw [List.foldlM_cons, step_bare word plain.1]
      by_cases last : rest = []
      · subst last
        rfl
      · have others := ih plain.2 last (some (word.getD [] ++ [character]))
        simpa using others

def escapedChar (character : Char) : List Char :=
  if character = '\\' || character = '"' then ['\\', character] else [character]

theorem foldlM_escapedChar (word : List Char) (character : Char) :
    (escapedChar character).foldlM step ⟨words, some word, .double⟩ =
      if startsExpansion character then none else some ⟨words, some (word ++ [character]), .double⟩ := by
  rw [escapedChar]
  by_cases escaped : (character = '\\' || character = '"') = true
  · rw [if_pos escaped]
    rw [Bool.or_eq_true, decide_eq_true_eq, decide_eq_true_eq] at escaped
    rcases escaped with rfl | rfl <;> rfl
  · rw [if_neg escaped]
    rw [Bool.not_eq_true, Bool.or_eq_false_iff, decide_eq_false_iff_not, decide_eq_false_iff_not] at escaped
    rw [List.foldlM_cons]
    by_cases expands : startsExpansion character = true
    · simp [step, escaped, expands]
    · simp [step, push, escaped, expands]

theorem foldlM_escaped (word value : List Char) :
    (value.flatMap escapedChar).foldlM step ⟨words, some word, .double⟩ =
      if value.any startsExpansion then none else some ⟨words, some (word ++ value), .double⟩ := by
  induction value generalizing word with
  | nil => simp
  | cons character rest ih =>
      rw [List.flatMap_cons, List.foldlM_append, foldlM_escapedChar]
      by_cases expands : startsExpansion character = true
      · simp [expands]
      · simp [expands, ih]

end LoadScript.Shell
