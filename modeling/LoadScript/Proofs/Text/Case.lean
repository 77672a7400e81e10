import LoadScript.Text.Case

/-!
Lower case brings in no marks: what a text in lower case holds in front of the small letters stood in the text
itself.
-/

namespace LoadScript.Text

variable {character letter : Char}

structure Shift.IsLower (shift : Shift) : Prop where
  behind : 0x61 ≤ shift.target
  valid : shift.target + (shift.last - shift.first) < 0xD800 ∨
    0xDFFF < shift.target ∧ shift.target + (shift.last - shift.first) < 0x110000

theorem isLower_of_mem {shift : Shift} (member : shift ∈ lowerShifts) : shift.IsLower := by
  have all : (lowerShifts.all fun shift => 0x61 ≤ shift.target &&
      (shift.target + (shift.last - shift.first) < 0xD800 ||
        0xDFFF < shift.target && shift.target + (shift.last - shift.first) < 0x110000)) = true := by
    decide
  have one := List.all_eq_true.mp all shift member
  simp only [Bool.and_eq_true, Bool.or_eq_true, decide_eq_true_eq] at one
  exact ⟨one.1, one.2⟩

theorem shiftCode_lowerShifts (code : Nat) :
    shiftCode lowerShifts code = code ∨
      0x61 ≤ shiftCode lowerShifts code ∧ (shiftCode lowerShifts code).isValidChar := by
  rw [shiftCode]
  cases found : lowerShifts.findSome? fun shift => shift.apply? code with
  | none => exact .inl rfl
  | some moved =>
      obtain ⟨shift, member, applied⟩ := List.exists_of_findSome?_eq_some found
      obtain ⟨behind, valid⟩ := isLower_of_mem member
      right
      unfold Shift.apply? at applied
      split at applied
      · next within =>
          cases applied
          simp only [Bool.and_eq_true, decide_eq_true_eq] at within
          rw [Option.getD_some, Nat.isValidChar]
          omega
      · cases applied

theorem mem_lowerBetween {before after : List Char} (member : letter ∈ lowerBetween before character after) :
    letter = character ∨ 0x61 ≤ letter.toNat := by
  rw [lowerBetween] at member
  split at member
  · right
    split at member
    · rw [List.mem_singleton.mp member]
      decide
    · rw [List.mem_singleton.mp member]
      decide
  · rw [lowerChar] at member
    split at member
    · right
      rw [List.mem_cons, List.mem_singleton] at member
      rcases member with rfl | rfl
      · decide
      · decide
    · rw [List.mem_singleton.mp member]
      rcases shiftCode_lowerShifts character.toNat with kept | ⟨behind, valid⟩
      · rw [kept, Char.ofNat_toNat]
        exact .inl rfl
      · right
        rw [Char.ofNat, dif_pos valid]
        exact behind

theorem mem_lowerFrom {text : List Char} :
    ∀ {before}, letter ∈ lowerFrom before text → letter ∈ text ∨ 0x61 ≤ letter.toNat := by
  induction text with
  | nil => exact fun member => absurd member List.not_mem_nil
  | cons character after ih =>
      intro before member
      rw [lowerFrom, List.mem_append] at member
      rcases member with first | others
      · rw [List.mem_cons, or_assoc]
        exact (mem_lowerBetween first).imp_right .inr
      · rw [List.mem_cons, or_assoc]
        exact .inr (ih others)

theorem mem_lower {text : String} (member : letter ∈ (lower text).toList) :
    letter ∈ text.toList ∨ 0x61 ≤ letter.toNat := by
  rw [lower, String.toList_ofList] at member
  exact mem_lowerFrom member

end LoadScript.Text
