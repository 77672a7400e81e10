import LoadScript.Proofs.Curl.Arguments
import LoadScript.Proofs.Curl.Methods

/-!
What is read the same when a text goes on: quoted arguments up to their closing mark, pairs and methods
without marks up to the next blank.
-/

namespace LoadScript.Curl

open Text

variable {α : Type} {read? : List Char → Option (α × List Char)} {mark blank : Char}
  {text rest : List Char}

theorem Settled.of_none (whole : read? (text ++ rest) = none) (part : read? text = none) :
    Settled read? rest text := by
  rw [Settled, whole, part]
  rfl

/-- What ends at the latest in front of a blank is settled in a text with a blank. -/
theorem settled_of_blank (ends : ∀ text rest, Settled read? (' ' :: rest) text)
    (before after rest : List Char) : Settled read? rest (before ++ ' ' :: after) := by
  have whole : read? (before ++ ' ' :: (after ++ rest)) = _ := ends before (after ++ rest)
  have part : read? (before ++ ' ' :: after) = _ := ends before after
  rw [Settled, List.append_assoc, List.cons_append, whole, part]
  cases read? before with
  | none => rfl
  | some found => simp

theorem quoted?_settled (closed : isQuote mark = true → mark ∈ text ∨ mark ∉ rest) :
    Settled quoted? rest (mark :: text) := by
  rw [Settled, List.cons_append, quoted?, quoted?]
  split
  · next quote => exact cut?_append (closed quote)
  · rfl

theorem quotedPair?_of_not_quote (plain : isQuote mark = false) (dropsBlanks : Bool) :
    quotedPair? dropsBlanks (mark :: text) = none := by
  rw [quotedPair?, if_neg (by simp [plain])]

theorem quotedPair?_of_not_mem (quote : isQuote mark = true) (absent : mark ∉ text)
    (dropsBlanks : Bool) : quotedPair? dropsBlanks (mark :: text) = none := by
  rcases exists_run isKeyPart text with whole | ⟨key, stop, value, rfl, plain, stops⟩
  · have ended := quotedPair?_none quote dropsBlanks whole stopsAt_nil (by simp)
    rwa [List.append_nil] at ended
  · by_cases colon : stop = ':'
    · subst colon
      have outside : mark ∉ value := fun found => absent (by simp [found])
      have uncut : cut? mark (if dropsBlanks then value.dropWhile isBlank else value) = none := by
        rw [cut?_eq_none_iff]
        split
        · exact fun found => outside ((List.dropWhile_sublist _).subset found)
        · exact outside
      rw [quotedPair?_colon quote dropsBlanks plain, uncut]
      rfl
    · exact quotedPair?_none quote dropsBlanks plain (stopsAt_cons.mpr stops) (by simp [colon])

theorem quotedPair?_settled (dropsBlanks : Bool)
    (closed : isQuote mark = true → mark ∈ text ∨ mark ∉ rest) :
    Settled (quotedPair? dropsBlanks) rest (mark :: text) := by
  cases quote : isQuote mark with
  | false =>
      exact .of_none (quotedPair?_of_not_quote quote dropsBlanks) (quotedPair?_of_not_quote quote dropsBlanks)
  | true =>
      -- A mark in the part ends the pair there; without one the pair ends nowhere.
      by_cases inside : mark ∈ text
      · have stopped : isKeyPart mark = false := by simp [isKeyPart, quote]
        rcases exists_run isKeyPart text with whole | ⟨key, stop, after, rfl, plain, stops⟩
        · exact absurd (whole mark inside) (by simp [stopped])
        by_cases colon : stop = ':'
        · subst colon
          have value : mark ∈ after := by
            have apart : mark ≠ ':' := by
              rintro rfl
              exact absurd quote (by decide)
            have outside : mark ∉ key := fun found => by simp [plain mark found] at stopped
            simpa [apart, outside] using inside
          have dropped : (after ++ rest).dropWhile isBlank = after.dropWhile isBlank ++ rest := by
            obtain ⟨before, behind, rfl⟩ := List.append_of_mem value
            rw [List.append_assoc, List.cons_append, dropWhile_append_mark quote,
              dropWhile_append_mark quote, List.append_assoc, List.cons_append]
          have kept : mark ∈ after.dropWhile isBlank := by
            obtain ⟨before, behind, rfl⟩ := List.append_of_mem value
            simp [dropWhile_append_mark quote]
          rw [Settled, List.cons_append, List.append_assoc, List.cons_append,
            quotedPair?_colon quote dropsBlanks plain, quotedPair?_colon quote dropsBlanks plain]
          cases dropsBlanks with
          | false =>
              simp only [Bool.false_eq_true, if_false, cut?_append (.inl value), Option.map_map]
              rfl
          | true =>
              simp only [if_true, dropped, cut?_append (.inl kept), Option.map_map]
              rfl
        · refine .of_none ?_ (quotedPair?_none quote dropsBlanks plain (by simp [stops]) (by simp [colon]))
          rw [List.cons_append, List.append_assoc]
          exact quotedPair?_none quote dropsBlanks plain (by simp [stops]) (by simp [colon])
      · have outside : mark ∉ text ++ rest := by
          rw [List.mem_append, not_or]
          exact ⟨inside, (closed quote).resolve_left inside⟩
        exact .of_none (quotedPair?_of_not_mem quote outside dropsBlanks)
          (quotedPair?_of_not_mem quote inside dropsBlanks)

theorem barePair?_settled (ends : isBlank blank = true) (text rest : List Char) :
    Settled barePair? (blank :: rest) text := by
  have apart : blank ≠ ':' := by
    rintro rfl
    exact absurd ends (by decide)
  have solid : (!isBlank blank) = false := by rw [ends]; rfl
  rcases exists_run isBareKeyPart text with whole | ⟨key, stop, value, rfl, plain, stops⟩
  · have alone := barePair?_none whole stopsAt_nil (by simp)
    rw [List.append_nil] at alone
    exact .of_none (barePair?_none whole (by simp [isBareKeyPart, ends]) (by simp [apart])) alone
  · by_cases colon : stop = ':'
    · subst colon
      rw [Settled, List.append_assoc, List.cons_append, barePair?_colon plain, barePair?_colon plain,
        takeWhile_append_stop solid, dropWhile_append_stop solid]
      rfl
    · refine .of_none ?_ (barePair?_none plain (stopsAt_cons.mpr stops) (by simp [colon]))
      rw [List.append_assoc]
      exact barePair?_none plain (stopsAt_cons.mpr stops) (by simp [colon])

theorem methodName?_settled (ends : isBlank blank = true) (text rest : List Char) :
    Settled methodName? (blank :: rest) text := by
  have plain : isQuote blank = false := by
    rw [← Bool.not_eq_true]
    exact fun quote => by simp [isBlank_of_isQuote quote] at ends
  exact methodName?_append (by simp [isBoundary, ends]) (.inr plain) rest

end LoadScript.Curl
