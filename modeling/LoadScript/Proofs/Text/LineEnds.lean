import LoadScript.Text.Lines
import LoadScript.Text.Split

/-!
Line ends: no line has one, and giving every line the same end changes exactly the texts that have a carriage
return.
-/

namespace LoadScript.Text

theorem linesOf_inLine (text : List Char) :
    ∀ line ∈ linesOf text, ∀ character ∈ line, endsLine character = false := by
  fun_induction linesOf text with
  | case1 => simp
  | case2 rest ih => simpa using ih
  | case3 character rest _ ends ih => simpa using ih
  | case4 character rest _ inside ih =>
      rw [Bool.not_eq_true] at inside
      cases others : linesOf rest with
      | nil => simp [pushFront, inside]
      | cons line lines =>
          rw [others, List.forall_mem_cons] at ih
          rw [pushFront, List.forall_mem_cons, List.forall_mem_cons]
          exact ⟨⟨inside, ih.1⟩, ih.2⟩

theorem linesOf_line {character : Char} {line : List Char}
    (inLine : ∀ other ∈ character :: line, endsLine other = false) :
    linesOf (character :: line) = [character :: line] := by
  have carriage : endsLine '\r' = true := by decide
  induction line generalizing character with
  | nil =>
      have inside := inLine character List.mem_cons_self
      rw [linesOf_cons fun _ => by simp, inside]
      rfl
  | cons next line ih =>
      rw [List.forall_mem_cons] at inLine
      have apart : character = '\r' → (next :: line).head? ≠ some '\n' := by
        rintro rfl
        rw [inLine.1] at carriage
        cases carriage
      rw [linesOf_cons apart, inLine.1, ih inLine.2]
      rfl

/-- What goes on inside of a line goes on with the last line of what comes before. -/
theorem exists_linesOf_append {character : Char} (inside : endsLine character = false)
    (text : List Char) :
    ∃ before last, ∀ line : List Char, (∀ other ∈ line, endsLine other = false) →
      linesOf (text ++ character :: line) = before ++ [last ++ character :: line] := by
  have feed : endsLine '\n' = true := by decide
  have noFeed : character ≠ '\n' := by
    rintro rfl
    rw [inside] at feed
    cases feed
  have apart {first : Char} {rest : List Char} (split : ∀ others, first = '\r' → rest ≠ '\n' :: others)
      (line : List Char) : first = '\r' → (rest ++ character :: line).head? ≠ some '\n' := by
    intro carriage
    cases rest with
    | nil => simpa using noFeed
    | cons next rest => simpa using fun same => split rest carriage (by rw [same])
  fun_induction linesOf text with
  | case1 =>
      refine ⟨[], [], fun line inLine => ?_⟩
      exact linesOf_line (List.forall_mem_cons.mpr ⟨inside, inLine⟩)
  | case2 rest ih =>
      obtain ⟨before, last, goesOn⟩ := ih
      refine ⟨[] :: before, last, fun line inLine => ?_⟩
      rw [List.cons_append, List.cons_append, linesOf, goesOn line inLine]
      rfl
  | case3 first rest split ends ih =>
      obtain ⟨before, last, goesOn⟩ := ih
      refine ⟨[] :: before, last, fun line inLine => ?_⟩
      rw [List.cons_append, linesOf_cons (apart split line), if_pos ends, goesOn line inLine]
      rfl
  | case4 first rest split goesOn ih =>
      obtain ⟨before, last, others⟩ := ih
      have whole (line : List Char) (inLine : ∀ other ∈ line, endsLine other = false) :
          linesOf (first :: rest ++ character :: line) =
            pushFront first (before ++ [last ++ character :: line]) := by
        rw [List.cons_append, linesOf_cons (apart split line), if_neg goesOn, others line inLine]
      cases before with
      | nil => exact ⟨[], first :: last, whole⟩
      | cons opening before => exact ⟨(first :: opening) :: before, last, whole⟩

theorem no_carriage_unifyLineEndsOf (text : List Char) : '\r' ∉ unifyLineEndsOf text := by
  fun_induction unifyLineEndsOf text with
  | case1 => simp
  | case2 rest ih => simp [ih]
  | case3 character rest _ ih =>
      rw [List.mem_cons, not_or]
      refine ⟨?_, ih⟩
      split
      · decide
      · next other => exact fun same => other same.symm

theorem unifyLineEndsOf_eq_self_iff {text : List Char} : unifyLineEndsOf text = text ↔ '\r' ∉ text := by
  constructor
  · intro same
    rw [← same]
    exact no_carriage_unifyLineEndsOf text
  · intro noReturn
    induction text with
    | nil => rfl
    | cons character rest ih =>
        rw [List.mem_cons, not_or] at noReturn
        have other : character ≠ '\r' := fun same => noReturn.1 same.symm
        rw [unifyLineEndsOf_cons fun same => absurd same other, if_neg other, ih noReturn.2]

variable {kind : Char → Bool} {character : Char} {text rest : List Char}

theorem unifyLineEndsOf_cons_plain (plain : character ≠ '\r') (rest : List Char) :
    unifyLineEndsOf (character :: rest) = character :: unifyLineEndsOf rest := by
  rw [unifyLineEndsOf_cons fun same => absurd same plain, if_neg plain]

/-- A text with unified line ends starts as the text does, but for a carriage return. -/
theorem exists_unifyLineEndsOf_cons (character : Char) (rest : List Char) :
    ∃ behind, unifyLineEndsOf (character :: rest) =
      (if character = '\r' then '\n' else character) :: behind := by
  rw [unifyLineEndsOf.eq_def]
  split
  · next same => cases same
  · next same =>
      cases same
      exact ⟨_, rfl⟩
  · next same =>
      cases same
      exact ⟨_, rfl⟩

theorem eq_cons_of_unifyLineEndsOf (unified : unifyLineEndsOf text = character :: rest)
    (other : character ≠ '\n') : ∃ behind, text = character :: behind ∧ rest = unifyLineEndsOf behind := by
  cases text with
  | nil => cases unified
  | cons first behind =>
      by_cases carriage : first = '\r'
      · obtain ⟨_, shape⟩ := exists_unifyLineEndsOf_cons first behind
        rw [shape, if_pos carriage] at unified
        exact absurd (List.cons.inj unified).1.symm other
      · rw [unifyLineEndsOf_cons_plain carriage] at unified
        cases unified
        exact ⟨behind, rfl, rfl⟩

theorem unifyLineEndsOf_eq_nil {text : List Char} (nothing : unifyLineEndsOf text = []) :
    text = [] := by
  cases text with
  | nil => rfl
  | cons character rest =>
      obtain ⟨behind, shape⟩ := exists_unifyLineEndsOf_cons character rest
      rw [shape] at nothing
      cases nothing

theorem getLast?_unifyLineEndsOf {text : List Char} {character : Char}
    (last : (unifyLineEndsOf text).getLast? = some character) (noFeed : character ≠ '\n') :
    text.getLast? = some character := by
  have step {first unified : Char} {rest : List Char}
      (ih : (unifyLineEndsOf rest).getLast? = some character → rest.getLast? = some character)
      (kept : unified = character → first = character)
      (last : (unified :: unifyLineEndsOf rest).getLast? = some character) :
      (first :: rest).getLast? = some character := by
    rw [List.getLast?_cons] at last ⊢
    cases behind : (unifyLineEndsOf rest).getLast? with
    | none =>
        have nothing := unifyLineEndsOf_eq_nil (List.getLast?_eq_none_iff.mp behind)
        rw [behind] at last
        rw [nothing]
        exact congrArg some (kept (Option.some.inj last))
    | some found =>
        rw [behind] at last ih
        rw [ih last]
        rfl
  fun_induction unifyLineEndsOf text with
  | case1 => cases last
  | case2 rest ih =>
      rw [List.getLast?_cons_cons]
      exact step ih (fun same => same) last
  | case3 first rest _ ih =>
      refine step ih (fun same => ?_) last
      split at same
      · exact absurd same.symm noFeed
      · exact same

theorem length_unifyLineEndsOf_le (text : List Char) : (unifyLineEndsOf text).length ≤ text.length := by
  fun_induction unifyLineEndsOf text with
  | case1 => exact Nat.le_refl _
  | case2 rest ih => simp only [List.length_cons]; omega
  | case3 character rest _ ih => simpa using ih

/-- What takes or leaves both line ends may take its part before or after the line ends are unified. -/
theorem dropWhile_unifyLineEndsOf (alike : kind '\r' = kind '\n') (text : List Char) :
    (unifyLineEndsOf text).dropWhile kind = unifyLineEndsOf (text.dropWhile kind) := by
  fun_induction unifyLineEndsOf text with
  | case1 => rfl
  | case2 rest ih =>
      by_cases feed : kind '\n' = true
      · simp [alike, feed, ih]
      · simp [alike, feed, unifyLineEndsOf]
  | case3 character rest apart ih =>
      have same : kind (if character = '\r' then '\n' else character) = kind character := by
        split
        · next carriage => rw [carriage, alike]
        · rfl
      rw [List.dropWhile_cons, List.dropWhile_cons, same, ih]
      split
      · rfl
      · rw [unifyLineEndsOf]
        exact apart

theorem takeWhile_unifyLineEndsOf (carriage : kind '\r' = false) (feed : kind '\n' = false)
    (text : List Char) : (unifyLineEndsOf text).takeWhile kind = text.takeWhile kind := by
  fun_induction unifyLineEndsOf text with
  | case1 => rfl
  | case2 rest ih => simp [carriage, feed]
  | case3 character rest apart ih =>
      split
      · next same => simp [same, carriage, feed]
      · rw [List.takeWhile_cons, List.takeWhile_cons, ih]

theorem dropStart?_unifyLineEndsOf {word : List Char} (noCarriage : '\r' ∉ word) (noFeed : '\n' ∉ word)
    (text : List Char) :
    dropStart? word (unifyLineEndsOf text) = (dropStart? word text).map unifyLineEndsOf := by
  induction word generalizing text with
  | nil => rfl
  | cons wanted word ih =>
      rw [List.mem_cons, not_or] at noCarriage noFeed
      cases text with
      | nil => rfl
      | cons character text =>
          by_cases carriage : character = '\r'
          · obtain ⟨behind, shape⟩ := exists_unifyLineEndsOf_cons character text
            rw [shape, if_pos carriage, carriage, dropStart?, dropStart?, if_neg (Ne.symm noFeed.1),
              if_neg (Ne.symm noCarriage.1)]
            rfl
          · rw [unifyLineEndsOf_cons_plain carriage, dropStart?, dropStart?]
            split
            · exact ih noCarriage.2 noFeed.2 text
            · rfl

end LoadScript.Text
