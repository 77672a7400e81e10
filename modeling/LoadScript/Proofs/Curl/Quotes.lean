import LoadScript.Curl.LineBreaks
import LoadScript.Proofs.Curl.Arguments
import LoadScript.Proofs.Text.Trimming

/-!
The quoted texts of a command, from left to right.
-/

namespace LoadScript.Curl

open Text

variable {first last : Char} {text rest : List Char}

theorem quotedTexts_skip (text rest : List Char) :
    quotedTexts text.length (text ++ rest) = quotedTexts 0 rest := by
  induction text with
  | nil => rfl
  | cons character text ih => exact ih

theorem quotedTexts_unquoted (unquoted : IsUnquoted text) (rest : List Char) :
    quotedTexts 0 (text ++ rest) = quotedTexts 0 rest := by
  induction text with
  | nil => rfl
  | cons character text ih =>
      rw [IsUnquoted, List.forall_mem_cons] at unquoted
      rw [List.cons_append, quotedTexts, unquoted.1]
      exact ih unquoted.2

theorem quotedTexts_cons_plain (plain : isQuote first = false) (rest : List Char) :
    quotedTexts 0 (first :: rest) = quotedTexts 0 rest := by
  rw [quotedTexts, plain]
  rfl

theorem quotedTexts_cons_mark (closes : isQuote last = true) (rest : List Char) :
    quotedTexts 0 (first :: last :: rest) = quotedTexts 0 (last :: rest) := by
  have nothing : (last :: rest).takeWhile (!isQuote ·) = [] := by simp [closes]
  rw [quotedTexts]
  simp only [nothing]
  rw [if_neg (by simp)]

theorem quotedTexts_of_unquoted (unquoted : IsUnquoted text) : quotedTexts 0 text = [] := by
  have passed := quotedTexts_unquoted unquoted []
  rwa [List.append_nil] at passed

theorem quotedTexts_quoted (opens : isQuote first = true) (closes : isQuote last = true)
    (unquoted : IsUnquoted text) (nonempty : text ≠ []) (rest : List Char) :
    quotedTexts 0 (first :: text ++ last :: rest) = text :: quotedTexts 0 rest := by
  have inside : (text ++ last :: rest).takeWhile (!isQuote ·) = text :=
    takeWhile_run (by simpa [IsUnquoted] using unquoted) (by simp [closes])
  have behind : quotedTexts (text.length + 1) (text ++ last :: rest) = quotedTexts 0 rest := by
    have skipped := quotedTexts_skip (text ++ [last]) rest
    rwa [List.length_append, List.append_assoc] at skipped
  rw [List.cons_append, quotedTexts]
  simp only [inside, behind]
  rw [if_pos (by simp [opens, nonempty])]

theorem quotedTexts_cons_unquoted (unquoted : IsUnquoted text) (first : Char) :
    quotedTexts 0 (first :: text) = [] := by
  have inside : text.takeWhile (!isQuote ·) = text := by
    have whole : (text ++ []).takeWhile (!isQuote ·) = text :=
      takeWhile_run (by simpa [IsUnquoted] using unquoted) stopsAt_nil
    rwa [List.append_nil] at whole
  rw [quotedTexts]
  simp only [inside]
  rw [if_neg (by simp), quotedTexts_of_unquoted unquoted]

/-- The quoted texts of a part are the first of the whole, and only a mark behind the part brings others. -/
theorem quotedTexts_append {skip : Nat} (within : skip ≤ text.length) (rest : List Char) :
    ∃ others, quotedTexts skip (text ++ rest) = quotedTexts skip text ++ others ∧
      (IsUnquoted rest → others = []) := by
  induction text generalizing skip with
  | nil =>
      rw [List.length_nil, Nat.le_zero] at within
      subst within
      exact ⟨quotedTexts 0 rest, rfl, quotedTexts_of_unquoted⟩
  | cons character text ih =>
      cases skip with
      | succ skip => exact ih (Nat.le_of_succ_le_succ within)
      | zero =>
          rcases exists_run (!isQuote ·) text with all | ⟨run, mark, behind, rfl, all, closes⟩
          · have unquoted : IsUnquoted text := by simpa [IsUnquoted] using all
            rw [quotedTexts_cons_unquoted unquoted]
            refine ⟨quotedTexts 0 (character :: text ++ rest), rfl, fun others => ?_⟩
            refine quotedTexts_cons_unquoted (fun inner found => ?_) character
            exact (List.mem_append.mp found).elim (unquoted inner) (others inner)
          · have inside (after : List Char) :
                (run ++ mark :: after).takeWhile (!isQuote ·) = run :=
              takeWhile_run all (by simpa using closes)
            rw [List.cons_append, List.append_assoc, List.cons_append, quotedTexts, quotedTexts]
            simp only [inside, List.length_append, List.length_cons]
            have short (after : Nat) : run.length < run.length + (after + 1) := by omega
            simp only [short, decide_true, Bool.and_true]
            split
            · have within : run.length + 1 ≤ (run ++ mark :: behind).length := by
                rw [List.length_append, List.length_cons]
                omega
              obtain ⟨others, goesOn, noneQuoted⟩ := ih within
              rw [List.append_assoc, List.cons_append] at goesOn
              exact ⟨others, congrArg (run :: ·) goesOn, noneQuoted⟩
            · obtain ⟨others, goesOn, noneQuoted⟩ := ih (Nat.zero_le _)
              rw [List.append_assoc, List.cons_append] at goesOn
              exact ⟨others, goesOn, noneQuoted⟩

inductive Pending : MarkState → List Char → Prop
  | outside : Pending .outside []
  | opened {mark : Char} : isQuote mark = true → Pending .opened [mark]
  | inside {mark : Char} {run : List Char} : isQuote mark = true → run ≠ [] → IsUnquoted run →
      Pending .inside (mark :: run)

theorem quotedTexts_pending {state : MarkState} {pending : List Char} (open_ : Pending state pending)
    (closes : state.behind text = .outside) (rest : List Char) :
    quotedTexts 0 (pending ++ (text ++ rest)) =
      quotedTexts 0 (pending ++ text) ++ quotedTexts 0 rest := by
  -- Each character of the text either settles what is pending or becomes a part of it.
  induction text generalizing state pending with
  | nil =>
      cases open_ with
      | outside => rfl
      | opened => cases closes
      | inside => cases closes
  | cons character text ih =>
      have next : (state.after character).behind text = .outside := closes
      cases open_ with
      | outside =>
          cases kind : isQuote character with
          | false =>
              simp only [MarkState.after, kind] at next
              have tail := ih .outside next
              rw [List.nil_append, List.nil_append, List.cons_append, quotedTexts_cons_plain kind,
                quotedTexts_cons_plain kind]
              exact tail
          | true =>
              simp only [MarkState.after, kind] at next
              exact ih (.opened kind) next
      | opened quote =>
          cases kind : isQuote character with
          | false =>
              simp only [MarkState.after, kind] at next
              have unquoted : IsUnquoted [character] := by simpa [IsUnquoted] using kind
              exact ih (.inside quote (List.cons_ne_nil _ _) unquoted) next
          | true =>
              simp only [MarkState.after, kind] at next
              have tail := ih (.opened kind) next
              rw [List.singleton_append, List.singleton_append, List.cons_append,
                quotedTexts_cons_mark kind, quotedTexts_cons_mark kind]
              exact tail
      | inside quote some unquoted =>
          rename_i mark run
          cases kind : isQuote character with
          | false =>
              simp only [MarkState.after, kind] at next
              have longer : IsUnquoted (run ++ [character]) := by
                intro inner found
                rcases List.mem_append.mp found with before | here
                · exact unquoted inner before
                · rw [List.mem_singleton.mp here, kind]
              have tail := ih (.inside quote (by simp) longer) next
              simpa using tail
          | true =>
              simp only [MarkState.after, kind] at next
              have tail := ih .outside next
              have whole := quotedTexts_quoted quote kind unquoted some (text ++ rest)
              have part := quotedTexts_quoted quote kind unquoted some text
              rw [List.cons_append (a := character), whole, part]
              exact congrArg (run :: ·) tail

theorem quotedTexts_append_of_closed (closes : MarkState.behind .outside text = .outside)
    (rest : List Char) : quotedTexts 0 (text ++ rest) = quotedTexts 0 text ++ quotedTexts 0 rest :=
  quotedTexts_pending .outside closes rest

theorem quotedTexts_trimChars (text : List Char) : quotedTexts 0 (trimChars text) = quotedTexts 0 text := by
  have plain {blanks : List Char} (all : ∀ character ∈ blanks, isBlank character = true) :
      IsUnquoted blanks := by
    intro character found
    rw [← Bool.not_eq_true]
    intro quote
    simpa [isBlank_of_isQuote quote] using all character found
  obtain ⟨dropped, whole, blanks⟩ := exists_dropped_end isBlank (text.dropWhile isBlank)
  obtain ⟨others, goesOn, noneQuoted⟩ := quotedTexts_append (Nat.zero_le (trimChars text).length) dropped
  have front : quotedTexts 0 text = quotedTexts 0 (text.dropWhile isBlank) := by
    have all : ∀ character ∈ text.takeWhile isBlank, isBlank character = true :=
      List.all_eq_true.mp List.all_takeWhile
    have passed := quotedTexts_unquoted (plain all) (text.dropWhile isBlank)
    rwa [List.takeWhile_append_dropWhile] at passed
  rw [noneQuoted (plain blanks), List.append_nil] at goesOn
  rw [front, ← goesOn]
  exact congrArg (quotedTexts 0) whole

end LoadScript.Curl
