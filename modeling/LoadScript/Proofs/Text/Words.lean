import LoadScript.Proofs.Text.Trimming
import LoadScript.Text.Alphanumeric

/-!
Blanks and the words between them.
-/

namespace LoadScript.Text

theorem Ranges.range_of_contains {ranges : Ranges} {code : Nat}
    (within : ranges.contains code = true) : ∃ range ∈ ranges, range.1 ≤ code ∧ code ≤ range.2 := by
  induction ranges with
  | nil => cases within
  | cons range ranges ih =>
      simp only [Ranges.contains] at within
      split at within
      · cases within
      · next notBefore =>
          split at within
          · next notBehind => exact ⟨range, List.mem_cons_self, Nat.not_lt.mp notBefore, notBehind⟩
          · obtain ⟨found, member, bounds⟩ := ih within
            exact ⟨found, List.mem_cons_of_mem _ member, bounds⟩

theorem blankRanges_apart : ∀ range ∈ blankRanges, ∀ offset ≤ range.2 - range.1,
    alphanumericRanges.contains (range.1 + offset) = false ∧ range.1 + offset ≠ 95 := by
  decide +kernel

theorem isWordCharacter_of_isBlank {character : Char} (blank : isBlank character = true) :
    isWordCharacter character = false := by
  obtain ⟨range, member, least, most⟩ := Ranges.range_of_contains blank
  have apart := blankRanges_apart range member (character.toNat - range.1) (by omega)
  rw [Nat.add_sub_cancel' least] at apart
  have other : character ≠ '_' := by
    rintro rfl
    exact apart.2 rfl
  simp [isWordCharacter, isAlphanumeric, apart.1, other]

variable {character blank : Char} {text rest : List Char}

def joinWord (character : Char) (rest : List Char) (words : List (List Char)) : List (List Char) :=
  match rest, words with
  | next :: _, word :: words =>
      if isBlank next then [character] :: word :: words else (character :: word) :: words
  | _, words => [character] :: words

theorem wordsOf_cons (character : Char) (rest : List Char) :
    wordsOf (character :: rest) =
      if isBlank character then wordsOf rest else joinWord character rest (wordsOf rest) := rfl

theorem wordsOf_cons_blank (isBlank : isBlank character = true) (rest : List Char) :
    wordsOf (character :: rest) = wordsOf rest := by
  rw [wordsOf_cons, if_pos isBlank]

theorem wordsOf_cons_solid (solid : isBlank character = false) (stops : StopsAt (!isBlank ·) rest) :
    wordsOf (character :: rest) = [character] :: wordsOf rest := by
  rw [wordsOf_cons, if_neg (by simp [solid])]
  cases rest with
  | nil => rfl
  | cons next rest =>
      have isBlank : Text.isBlank next = true := by simpa using stops
      cases wordsOf (next :: rest) with
      | nil => rfl
      | cons word words => exact if_pos isBlank

theorem wordsOf_cons_cons (solid : isBlank character = false) {next : Char}
    (joins : isBlank next = false) (rest : List Char) :
    ∃ word words, wordsOf (next :: rest) = word :: words ∧
      wordsOf (character :: next :: rest) = (character :: word) :: words := by
  obtain ⟨word, words, found⟩ : ∃ word words, wordsOf (next :: rest) = word :: words := by
    rw [wordsOf_cons, if_neg (by simp [joins])]
    unfold joinWord
    split
    · split <;> exact ⟨_, _, rfl⟩
    · exact ⟨_, _, rfl⟩
  refine ⟨word, words, found, ?_⟩
  rw [wordsOf_cons, if_neg (by simp [solid]), found, joinWord, if_neg (by simp [joins])]

theorem wordsOf_append (isBlank : isBlank blank = true) (text rest : List Char) :
    wordsOf (text ++ blank :: rest) = wordsOf text ++ wordsOf rest := by
  induction text with
  | nil => exact wordsOf_cons_blank isBlank rest
  | cons character text ih =>
      rw [List.cons_append]
      cases kind : Text.isBlank character with
      | true => rw [wordsOf_cons_blank kind, wordsOf_cons_blank kind, ih]
      | false =>
          cases text with
          | nil =>
              rw [List.nil_append, wordsOf_cons_solid kind (by simpa using isBlank),
                wordsOf_cons_solid kind stopsAt_nil, wordsOf_cons_blank isBlank]
              rfl
          | cons next text =>
              cases joins : Text.isBlank next with
              | true =>
                  rw [wordsOf_cons_solid kind (by simpa using joins),
                    wordsOf_cons_solid kind (by simpa using joins), ih]
                  rfl
              | false =>
                  obtain ⟨word, words, found, joined⟩ := wordsOf_cons_cons kind joins text
                  obtain ⟨longer, others, goesOn, whole⟩ :=
                    wordsOf_cons_cons kind joins (text ++ blank :: rest)
                  rw [List.cons_append] at ih
                  rw [ih, found, List.cons_append] at goesOn
                  cases goesOn
                  rw [List.cons_append, whole, joined]
                  rfl

theorem wordsOf_blanks (blanks : ∀ character ∈ text, isBlank character = true) : wordsOf text = [] := by
  induction text with
  | nil => rfl
  | cons character text ih =>
      rw [List.forall_mem_cons] at blanks
      rw [wordsOf_cons_blank blanks.1, ih blanks.2]

theorem wordsOf_append_blanks {blanks : List Char} (spaced : blanks ≠ [])
    (all : ∀ character ∈ blanks, isBlank character = true) (text rest : List Char) :
    wordsOf (text ++ blanks ++ rest) = wordsOf text ++ wordsOf rest := by
  induction blanks generalizing text with
  | nil => exact absurd rfl spaced
  | cons blank blanks ih =>
      rw [List.forall_mem_cons] at all
      rw [List.append_assoc, List.cons_append, wordsOf_append all.1]
      cases blanks with
      | nil => rfl
      | cons next blanks =>
          have inner := ih (by simp) all.2 []
          rw [List.nil_append] at inner
          rw [inner]
          rfl

theorem wordsOf_word (nonempty : text ≠ []) (solid : ∀ character ∈ text, isBlank character = false) :
    wordsOf text = [text] := by
  induction text with
  | nil => exact absurd rfl nonempty
  | cons character text ih =>
      rw [List.forall_mem_cons] at solid
      cases text with
      | nil => rw [wordsOf_cons_solid solid.1 stopsAt_nil]; rfl
      | cons next text =>
          obtain ⟨word, words, found, joined⟩ :=
            wordsOf_cons_cons solid.1 (solid.2 next List.mem_cons_self) text
          rw [ih (by simp) solid.2] at found
          cases found
          exact joined

theorem wordsOf_dropWhile (text : List Char) : wordsOf (text.dropWhile isBlank) = wordsOf text := by
  induction text with
  | nil => rfl
  | cons character text ih =>
      rw [List.dropWhile_cons]
      split
      · next isBlank => rw [ih, wordsOf_cons_blank isBlank]
      · rfl

theorem wordsOf_trimChars (text : List Char) : wordsOf (trimChars text) = wordsOf text := by
  obtain ⟨dropped, whole, blanks⟩ := exists_dropped_end isBlank (text.dropWhile isBlank)
  have behind : wordsOf (trimChars text ++ dropped) = wordsOf (trimChars text) := by
    cases dropped with
    | nil => rw [List.append_nil]
    | cons blank dropped =>
        rw [List.forall_mem_cons] at blanks
        rw [wordsOf_append blanks.1, wordsOf_blanks blanks.2, List.append_nil]
  rw [← behind, ← wordsOf_dropWhile text]
  exact congrArg wordsOf whole

/-- A text begins with a blank, or it is a word, alone or in front of a blank. -/
@[elab_as_elim]
theorem words_induction {motive : List Char → Prop} (nil : motive [])
    (blank : ∀ blank rest, isBlank blank = true → motive rest → motive (blank :: rest))
    (word : ∀ word, word ≠ [] → (∀ letter ∈ word, isBlank letter = false) → motive word)
    (more : ∀ word blank rest, word ≠ [] → (∀ letter ∈ word, isBlank letter = false) →
      isBlank blank = true → motive rest → motive (word ++ blank :: rest))
    (text : List Char) : motive text := by
  induction size : text.length using Nat.strongRecOn generalizing text with
  | _ count ih =>
      rcases exists_run (!isBlank ·) text with solid | ⟨run, stop, rest, rfl, solid, stops⟩
      · cases text with
        | nil => exact nil
        | cons letter text => exact word _ (by simp) (by simpa using solid)
      · rw [Bool.not_eq_false'] at stops
        have smaller : rest.length < count := by
          rw [← size, List.length_append, List.length_cons]
          omega
        have inner := ih _ smaller rest rfl
        cases run with
        | nil => exact blank stop rest stops inner
        | cons letter run => exact more _ stop rest (by simp) (by simpa using solid) stops inner

theorem wordsOf_subset (text : List Char) : ∀ word ∈ wordsOf text, word ⊆ text := by
  induction text using words_induction with
  | nil => simp [wordsOf]
  | blank blank rest isBlank ih =>
      rw [wordsOf_cons_blank isBlank]
      exact fun word member => List.subset_cons_of_subset blank (ih word member)
  | word word nonempty solid => simp [wordsOf_word nonempty solid]
  | more first blank rest nonempty solid isBlank ih =>
      rw [wordsOf_append isBlank, wordsOf_word nonempty solid, List.singleton_append, List.forall_mem_cons]
      refine ⟨List.subset_append_left _ _, fun word member => ?_⟩
      exact List.subset_append_of_subset_right _ (List.subset_cons_of_subset blank (ih word member))

theorem flatten_wordsOf (text : List Char) : (wordsOf text).flatten = text.filter (!isBlank ·) := by
  induction text using words_induction with
  | nil => rfl
  | blank blank rest isBlank ih => simp [wordsOf_cons_blank isBlank, ih, isBlank]
  | word word nonempty solid =>
      have whole : word.filter (!isBlank ·) = word := by simpa [List.filter_eq_self] using solid
      rw [wordsOf_word nonempty solid, whole, List.flatten_singleton]
  | more word blank rest nonempty solid isBlank ih =>
      have whole : word.filter (!Text.isBlank ·) = word := by simpa [List.filter_eq_self] using solid
      rw [wordsOf_append isBlank, wordsOf_word nonempty solid, List.filter_append, whole]
      simp [ih, isBlank]

theorem getLast?_wordsOf_concat {letter : Char} (solid : isBlank letter = false) (text : List Char) :
    ∃ words word, wordsOf (text ++ [letter]) = words ++ [word ++ [letter]] := by
  induction text using words_induction with
  | nil => exact ⟨[], [], wordsOf_word (by simp) (by simpa using solid)⟩
  | blank blank rest isBlank ih => rwa [List.cons_append, wordsOf_cons_blank isBlank]
  | word word nonempty wordSolid =>
      refine ⟨[], word, wordsOf_word (by simp) fun character member => ?_⟩
      rcases List.mem_append.mp member with inside | last
      · exact wordSolid character inside
      · exact List.mem_singleton.mp last ▸ solid
  | more first blank rest nonempty wordSolid isBlank ih =>
      obtain ⟨words, word, same⟩ := ih
      refine ⟨first :: words, word, ?_⟩
      rw [List.append_assoc, List.cons_append, wordsOf_append isBlank, wordsOf_word nonempty wordSolid, same]
      rfl

/-- Words lie between blanks, so that none is empty, and only blanks have none. -/
theorem wordsOf_solid (text : List Char) :
    [] ∉ wordsOf text ∧ (wordsOf text = [] → ∀ letter ∈ text, isBlank letter = true) := by
  induction text using words_induction with
  | nil => simp [wordsOf]
  | blank blank rest isBlank ih =>
      rw [wordsOf_cons_blank isBlank, List.forall_mem_cons]
      exact ⟨ih.1, fun noWords => ⟨isBlank, ih.2 noWords⟩⟩
  | word word nonempty solid => simp [wordsOf_word nonempty solid, nonempty.symm]
  | more word blank rest nonempty solid isBlank ih =>
      rw [wordsOf_append isBlank, wordsOf_word nonempty solid]
      simp [nonempty.symm, ih.1]

end LoadScript.Text
