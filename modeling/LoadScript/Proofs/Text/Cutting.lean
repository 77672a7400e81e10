import LoadScript.Text.Split

/-!
Cutting a text at the first place of a character, and taking an expected start off it.
-/

namespace LoadScript.Text

variable {separator : Char} {text rest : List Char}

theorem cut?_mark (absent : separator ∉ text) (rest : List Char) :
    cut? separator (text ++ separator :: rest) = some (text, rest) := by
  induction text with
  | nil => simp [cut?]
  | cons character text ih =>
      rw [List.mem_cons, not_or] at absent
      rw [List.cons_append, cut?, if_neg fun same => absent.1 same.symm, ih absent.2]
      rfl

theorem eq_of_cut? {before after : List Char} (cut : cut? separator text = some (before, after)) :
    text = before ++ separator :: after ∧ separator ∉ before := by
  induction text generalizing before with
  | nil => cases cut
  | cons character text ih =>
      rw [cut?] at cut
      split at cut
      · next same =>
          cases cut
          simp [same]
      · next other =>
          obtain ⟨parts, found, same⟩ := Option.map_eq_some_iff.mp cut
          cases same
          obtain ⟨joined, absent⟩ := ih found
          refine ⟨by rw [joined]; rfl, ?_⟩
          rw [List.mem_cons, not_or]
          exact ⟨fun same => other same.symm, absent⟩

theorem cut?_of_mem (found : separator ∈ text) :
    cut? separator text =
      some (text.takeWhile (· ≠ separator), (text.dropWhile (· ≠ separator)).tail) := by
  induction text with
  | nil => cases found
  | cons character text ih =>
      rw [cut?]
      split
      · next same => simp [same]
      · next other =>
          have later : separator ∈ text := (List.mem_cons.mp found).resolve_left (Ne.symm other)
          simp [ih later, other]

/-- What follows a text does not matter to where it is cut, unless it brings the first place to cut. -/
theorem cut?_append (settled : separator ∈ text ∨ separator ∉ rest) :
    cut? separator (text ++ rest) =
      (cut? separator text).map fun parts => (parts.1, parts.2 ++ rest) := by
  induction text with
  | nil =>
      have absent : separator ∉ rest := settled.resolve_left (by simp)
      exact cut?_eq_none_iff.mpr absent
  | cons character text ih =>
      rw [List.cons_append, cut?, cut?]
      split
      · rfl
      · next other =>
          have within : separator ∈ text ∨ separator ∉ rest :=
            settled.imp_left fun found => (List.mem_cons.mp found).resolve_left fun same =>
              other same.symm
          rw [ih within]
          cases cut? separator text <;> rfl

theorem dropStart?_append {character : Char} {letters : List Char} (text rest : List Char)
    (apart : ∀ letter ∈ letters, letter ≠ character) :
    dropStart? letters (text ++ character :: rest) =
      (dropStart? letters text).map (· ++ character :: rest) := by
  induction letters generalizing text with
  | nil => rfl
  | cons letter letters ih =>
      rw [List.forall_mem_cons] at apart
      cases text with
      | nil => simp [dropStart?, apart.1]
      | cons first text =>
          rw [List.cons_append, dropStart?, dropStart?]
          split
          · exact ih text apart.2
          · rfl

theorem dropStart?_suffix {letters text rest : List Char}
    (dropped : dropStart? letters text = some rest) : rest <:+ text :=
  eq_append_of_dropStart? dropped ▸ List.suffix_append letters rest

/-! Pieces. -/

theorem splitAt_cons_other {character : Char} (other : character ≠ separator) (rest : List Char) :
    ∃ piece pieces, splitAt separator rest = piece :: pieces ∧
      splitAt separator (character :: rest) = (character :: piece) :: pieces := by
  obtain ⟨piece, pieces, found⟩ := List.exists_cons_of_ne_nil (splitAt_ne_nil separator rest)
  refine ⟨piece, pieces, found, ?_⟩
  rw [splitAt, if_neg other, found]

theorem notMem_splitAt (text : List Char) : ∀ piece ∈ splitAt separator text, separator ∉ piece := by
  induction text with
  | nil => simp [splitAt]
  | cons character text ih =>
      by_cases mark : character = separator
      · subst mark
        rw [splitAt_cons_mark, List.forall_mem_cons]
        exact ⟨List.not_mem_nil, ih⟩
      · obtain ⟨piece, pieces, found, whole⟩ := splitAt_cons_other mark text
        rw [found, List.forall_mem_cons] at ih
        rw [whole, List.forall_mem_cons, List.mem_cons, not_or]
        exact ⟨⟨Ne.symm mark, ih.1⟩, ih.2⟩

theorem splitAt_piece {piece : List Char} (whole : separator ∉ piece) :
    splitAt separator piece = [piece] := by
  induction piece with
  | nil => rfl
  | cons character piece ih =>
      rw [List.mem_cons, not_or] at whole
      obtain ⟨first, others, found, longer⟩ := splitAt_cons_other (Ne.symm whole.1) piece
      rw [ih whole.2] at found
      cases found
      exact longer

theorem splitAt_append (text rest : List Char) :
    splitAt separator (text ++ separator :: rest) = splitAt separator text ++ splitAt separator rest := by
  induction text with
  | nil => exact splitAt_cons_mark separator rest
  | cons character text ih =>
      rw [List.cons_append]
      by_cases mark : character = separator
      · subst mark
        rw [splitAt_cons_mark, splitAt_cons_mark, ih]
        rfl
      · obtain ⟨piece, pieces, found, whole⟩ := splitAt_cons_other mark text
        obtain ⟨first, others, foundLonger, longer⟩ :=
          splitAt_cons_other mark (text ++ separator :: rest)
        rw [ih, found, List.cons_append] at foundLonger
        cases foundLonger
        rw [longer, whole]
        rfl

theorem length_splitAt (text : List Char) :
    (splitAt separator text).length = text.count separator + 1 := by
  induction text with
  | nil => rfl
  | cons character text ih =>
      by_cases mark : character = separator
      · subst mark
        rw [splitAt_cons_mark, List.length_cons, ih, List.count_cons_self]
      · obtain ⟨piece, pieces, found, whole⟩ := splitAt_cons_other mark text
        rw [found, List.length_cons] at ih
        rw [whole, List.length_cons, ih, List.count_cons_of_ne mark]

theorem splitAt_intercalate {pieces : List (List Char)} (nonempty : pieces ≠ [])
    (whole : ∀ piece ∈ pieces, separator ∉ piece) :
    splitAt separator ([separator].intercalate pieces) = pieces := by
  induction pieces with
  | nil => exact absurd rfl nonempty
  | cons piece pieces ih =>
      rw [List.forall_mem_cons] at whole
      cases pieces with
      | nil => rw [List.intercalate_singleton, splitAt_piece whole.1]
      | cons next pieces =>
          have apart : [separator].intercalate (piece :: next :: pieces) =
              piece ++ separator :: [separator].intercalate (next :: pieces) := by
            simp [List.intercalate]
          rw [apart, splitAt_append, splitAt_piece whole.1, ih (List.cons_ne_nil _ _) whole.2]
          rfl

theorem intercalate_splitAt (separator : Char) (text : List Char) :
    [separator].intercalate (splitAt separator text) = text := by
  induction text with
  | nil => rfl
  | cons character text ih =>
      by_cases mark : character = separator
      · subst mark
        obtain ⟨piece, pieces, found⟩ := List.exists_cons_of_ne_nil (splitAt_ne_nil character text)
        rw [splitAt_cons_mark, found, List.intercalate_cons_cons, ← found, ih]
        rfl
      · obtain ⟨piece, pieces, found, whole⟩ := splitAt_cons_other mark text
        rw [found] at ih
        rw [whole]
        cases pieces with
        | nil => simpa using ih
        | cons next pieces =>
            rw [List.intercalate_cons_cons] at ih ⊢
            simpa using ih

theorem mem_intercalate {character : Char} {pieces : List (List Char)}
    (found : character ∈ [separator].intercalate pieces) :
    character = separator ∨ ∃ piece ∈ pieces, character ∈ piece := by
  induction pieces with
  | nil => cases found
  | cons piece pieces ih =>
      cases pieces with
      | nil => exact .inr ⟨piece, List.mem_cons_self, by simpa using found⟩
      | cons next pieces =>
          rw [List.intercalate_cons_cons, List.append_assoc, List.mem_append, List.mem_append,
            List.mem_singleton] at found
          rcases found with here | mark | later
          · exact .inr ⟨piece, List.mem_cons_self, here⟩
          · exact .inl mark
          · exact (ih later).imp_right fun ⟨other, member, inside⟩ =>
              ⟨other, List.mem_cons_of_mem _ member, inside⟩

theorem mem_intercalate_of_mem {character : Char} {piece : List Char} {pieces : List (List Char)}
    (member : piece ∈ pieces) (inside : character ∈ piece) :
    character ∈ [separator].intercalate pieces := by
  induction pieces with
  | nil => cases member
  | cons first pieces ih =>
      cases pieces with
      | nil =>
          rw [List.mem_singleton] at member
          rw [List.intercalate_singleton]
          exact member ▸ inside
      | cons next pieces =>
          rw [List.intercalate_cons_cons, List.mem_append]
          rcases List.mem_cons.mp member with rfl | later
          · exact .inl (List.mem_append_left _ inside)
          · exact .inr (ih later)

end LoadScript.Text
