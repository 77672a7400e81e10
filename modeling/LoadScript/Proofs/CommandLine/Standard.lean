import LoadScript.CommandLine.Standard

/-!
What the commands rely on holds of the standard platform: texts without brackets are shown also behind a label, and
what is taken out of the output are seven-bit characters.
-/

namespace LoadScript.CommandLine

variable {text rest : List Char} {styles : List String}

/-! Messages. -/

def Shown (styles : List String) (marks : List Markup) : Prop := ∃ text, plainFrom styles marks = .ok text

theorem shown_text {value : List Char} {marks : List Markup} (shown : Shown styles marks) :
    Shown styles (.text value :: marks) := by
  obtain ⟨text, plain⟩ := shown
  exact ⟨value ++ text, by rw [plainFrom, plain]; rfl⟩

theorem shown_cons {character : Char} (slashes : Nat) (noBracket : character ≠ '[')
    (shown : ∀ slashes, Shown styles (markups slashes 0 rest)) :
    Shown styles (markups slashes 0 (character :: rest)) := by
  rw [markups]
  split
  · exact shown (slashes + 1)
  · exact shown_text (shown 0)

theorem shown_append (noBracket : '[' ∉ text) (shown : ∀ slashes, Shown styles (markups slashes 0 rest)) :
    ∀ slashes, Shown styles (markups slashes 0 (text ++ rest)) := by
  induction text with
  | nil => exact shown
  | cons character text ih =>
      rw [List.mem_cons, not_or] at noBracket
      intro slashes
      exact shown_cons slashes (Ne.symm noBracket.1) (ih noBracket.2)

theorem shown_end (noBracket : '[' ∉ text) (slashes : Nat) : Shown styles (markups slashes 0 text) := by
  have nothing (slashes : Nat) : Shown styles (markups slashes 0 []) := ⟨_, rfl⟩
  have shown := shown_append noBracket nothing slashes
  rwa [List.append_nil] at shown

/-- A colon stands between the title and the tag that closes its style. -/
theorem shown_label (noBracket : '[' ∉ text) (plain : '[' ∉ rest) :
    Shown [] (markups 0 0 ("[green]".toList ++ (text ++ (":[/green] ".toList ++ rest)))) := by
  have opens (rest : List Char) : markups 0 0 ("[green]".toList ++ rest) =
      .text [] :: .opening "green".toList :: markups 0 0 rest := rfl
  have closes (slashes : Nat) (rest : List Char) : ∃ before, markups slashes 0 (":[/green] ".toList ++ rest) =
      .text before :: .text [] :: .closing "green".toList :: .text [' '] :: markups 0 0 rest := ⟨_, rfl⟩
  have opened : styleName "green".toList = "green" := by decide
  have closed : close ["green"] "green".toList = .ok [] := by rfl
  have behind (slashes : Nat) : Shown ["green"] (markups slashes 0 (":[/green] ".toList ++ rest)) := by
    obtain ⟨before, marks⟩ := closes slashes rest
    rw [marks]
    refine shown_text (shown_text ?_)
    rw [Shown, plainFrom, closed]
    exact shown_text (shown_end plain 0)
  rw [opens]
  refine shown_text ?_
  rw [Shown, plainFrom, opened]
  exact shown_append noBracket behind 0

theorem plainText_plain {message : String} (noBracket : '[' ∉ message.toList) :
    ∃ text, plainText message = .ok text := by
  rw [plainText, if_neg (by simpa using noBracket)]
  exact ⟨_, rfl⟩

theorem plainText_labelled {title message : String} (noBracket : '[' ∉ title.toList)
    (plain : '[' ∉ message.toList) :
    ∃ text, plainText ("[green]" ++ title ++ ":[/green] " ++ message) = .ok text := by
  obtain ⟨text, shown⟩ := shown_label noBracket plain
  rw [plainText]
  split
  · simp only [String.toList_append, List.append_assoc, shown]
    exact ⟨_, rfl⟩
  · exact ⟨_, rfl⟩

/-! The output. -/

theorem dropStyles_plain (noEscape : escapeCharacter ∉ text) : dropStyles 0 text = text := by
  induction text with
  | nil => rfl
  | cons character rest ih =>
      rw [List.mem_cons, not_or] at noEscape
      rw [dropStyles, if_neg (Ne.symm noEscape.1)]
      exact congrArg _ (ih noEscape.2)

theorem length_dropStyles_le (skip : Nat) (text : List Char) :
    (dropStyles skip text).length ≤ text.length := by
  induction text generalizing skip with
  | nil => cases skip <;> exact Nat.le_refl _
  | cons character rest ih =>
      cases skip with
      | succ skip => exact Nat.le_succ_of_le (ih skip)
      | zero =>
          rw [dropStyles]
          split
          · next length _ => exact Nat.le_succ_of_le (ih length)
          · exact Nat.succ_le_succ (ih 0)

def isSevenBit (character : Char) : Bool := character.toNat < 0x80

theorem isSevenBit_of_isAlpha {letter : Char} (isLetter : letter.isAlpha = true) : isSevenBit letter = true := by
  rw [isSevenBit, decide_eq_true_eq]
  rcases (Bool.or_eq_true _ _).mp isLetter with upper | lower
  · have most := UInt32.le_iff_toNat_le.mp (of_decide_eq_true upper).2
    exact Nat.lt_of_le_of_lt most (by decide)
  · have most := UInt32.le_iff_toNat_le.mp (of_decide_eq_true (Bool.and_eq_true_iff.mp lower).2)
    exact Nat.lt_of_le_of_lt most (by decide)

theorem isSevenBit_of_isStyleParameter {parameter : Char} (isParameter : isStyleParameter parameter = true) :
    isSevenBit parameter = true := by
  rw [isSevenBit, decide_eq_true_eq]
  simp only [isStyleParameter, Bool.or_eq_true, decide_eq_true_eq] at isParameter
  rcases isParameter with (digit | rfl) | rfl
  · have most := UInt32.le_iff_toNat_le.mp (of_decide_eq_true (Bool.and_eq_true_iff.mp digit).2)
    exact Nat.lt_of_le_of_lt most (by decide)
  · decide
  · decide

theorem exists_of_styleLength? {length : Nat} (found : styleLength? text = some length) :
    ∃ sequence behind, text = sequence ++ behind ∧ sequence.length = length ∧
      sequence.all isSevenBit = true := by
  rw [styleLength?.eq_def] at found
  split at found
  · next inside =>
      split at found
      · next letter behind stopped =>
          split at found
          · next isLetter =>
              cases found
              refine ⟨'[' :: inside.takeWhile isStyleParameter ++ [letter], behind, ?_, by simp, ?_⟩
              · rw [List.append_assoc, List.singleton_append, ← stopped, List.cons_append,
                  List.takeWhile_append_dropWhile]
              · simp only [List.cons_append, List.all_cons, List.all_append, List.all_nil, Bool.and_eq_true]
                refine ⟨by decide, List.all_eq_true.mpr fun parameter member => ?_,
                  isSevenBit_of_isAlpha isLetter, trivial⟩
                exact isSevenBit_of_isStyleParameter (List.all_eq_true.mp List.all_takeWhile parameter member)
          · cases found
      · cases found
  · cases found

theorem dropStyles_skip (skipped text : List Char) :
    dropStyles skipped.length (skipped ++ text) = dropStyles 0 text := by
  induction skipped with
  | nil => rfl
  | cons character skipped ih => exact ih

/-- Taking sequences away makes no difference to characters that have no part in them. -/
theorem all_dropStyles {passes : Char → Bool}
    (sevenBit : ∀ character, isSevenBit character = true → passes character = true) (text : List Char) :
    (dropStyles 0 text).all passes = text.all passes := by
  cases text with
  | nil => rfl
  | cons character rest =>
      rw [dropStyles]
      split
      · next length found =>
          split at found
          · next isEscape =>
              obtain ⟨sequence, behind, parts, rfl, all⟩ := exists_of_styleLength? found
              have shorter : behind.length ≤ rest.length := by
                rw [parts, List.length_append]
                omega
              have escape : passes character = true := sevenBit _ (by rw [isEscape]; decide)
              have passed : sequence.all passes = true :=
                List.all_eq_true.mpr fun other member => sevenBit other (List.all_eq_true.mp all other member)
              rw [parts, dropStyles_skip, all_dropStyles sevenBit behind, List.all_cons, List.all_append, escape,
                passed, Bool.true_and, Bool.true_and]
          · cases found
      · rw [List.all_cons, List.all_cons, all_dropStyles sevenBit rest]
termination_by text.length
decreasing_by
  all_goals
    simp only [List.length_cons]
    omega

theorem not_standsForHalf {character : Char} (sevenBit : isSevenBit character = true) :
    (!Json.standsForHalf character) = true := by
  rw [isSevenBit, decide_eq_true_eq] at sevenBit
  have below : ¬ Json.firstPrivate ≤ character.toNat :=
    Nat.not_le.mpr (Nat.lt_trans sevenBit (by decide))
  rw [Json.standsForHalf, decide_eq_false below]
  rfl

theorem Platform.standard_shown (message : String) :
    Platform.standard.shown message = (plainText message).mapError MarkupError.message := rfl

theorem Platform.standard_conforms : Platform.standard.Conforms where
  encodes_sevenBit text all := List.all_eq_true.mpr fun character member =>
    not_standsForHalf (decide_eq_true (all character member))
  shown_plain message noBracket := by
    obtain ⟨text, shown⟩ := plainText_plain noBracket
    exact ⟨text, by rw [standard_shown, shown]; rfl⟩
  shown_labelled title message noBracket plain := by
    obtain ⟨text, shown⟩ := plainText_labelled noBracket plain
    exact ⟨text, by rw [standard_shown, shown]; rfl⟩
  piped_plain text noEscape := by
    show String.ofList (dropStyles 0 text.toList) = text
    rw [dropStyles_plain noEscape, String.ofList_toList]
  encodes_piped text := by
    simp only [standard, unstyled, String.toList_ofList]
    exact all_dropStyles (fun _ => not_standsForHalf) text.toList

end LoadScript.CommandLine
