import LoadScript.Proofs.Number.Numeral
import LoadScript.Proofs.Text.Trimming
import LoadScript.Proofs.Text.Words
import LoadScript.Text.WholeNumber

/-!
Whole numbers that are written in decimal are read again.
-/

namespace LoadScript.Text

open Double.Spelling (AllDigits)

variable {digit : Char} {digits : List Char}

theorem digitValue?_of_isDigit (decimal : digit.isDigit = true) :
    digitValue? digit = some (digit.toNat - '0'.toNat) := by
  obtain ⟨least, most⟩ := Char.isDigit_iff_toNat.mp decimal
  have within : 0x30 ≤ digit.toNat ∧ digit.toNat < 0x30 + 10 := ⟨least, Nat.lt_succ_of_le most⟩
  simp [digitValue?, digitZeros, within]

theorem isDigit_of_decimal (decimal : digit.isDigit = true) : isDigit digit = true := by
  rw [isDigit, digitValue?_of_isDigit decimal]
  rfl

theorem digitsValue_decimal (all : AllDigits digits) : digitsValue digits = Double.digitsValue digits := by
  have fold (start : Nat) :
      digits.foldl (fun value digit => 10 * value + (digitValue? digit).getD 0) start =
        digits.foldl (fun value digit => 10 * value + (digit.toNat - '0'.toNat)) start := by
    induction digits generalizing start with
    | nil => rfl
    | cons digit rest ih =>
        have here := all digit List.mem_cons_self
        rw [List.foldl_cons, List.foldl_cons, digitValue?_of_isDigit here]
        exact ih (fun other member => all other (List.mem_cons_of_mem _ member)) _
  exact fold 0

theorem withoutSeparators?_digits (all : AllDigits digits) (afterDigit : Bool) :
    withoutSeparators? afterDigit digits = some digits := by
  induction digits generalizing afterDigit with
  | nil => rfl
  | cons digit rest ih =>
      have noSeparator : digit ≠ '_' := by
        rintro rfl
        exact absurd (all '_' List.mem_cons_self) (by decide)
      rw [withoutSeparators?, ih fun other member => all other (List.mem_cons_of_mem _ member)]
      · rfl
      · exact fun same => absurd same noSeparator

theorem natural_digits (all : AllDigits digits) (nonempty : digits ≠ [])
    (short : digits.length ≤ LongNumber.digitLimit) :
    natural digits = .ok (Double.digitsValue digits) := by
  have inNumeral : ∀ character ∈ digits, (isDigit character || character = '_') = true := by
    intro character member
    rw [isDigit_of_decimal (all character member), Bool.true_or]
  have whole : digits.takeWhile (fun character => isDigit character || character = '_') = digits := by
    simpa using takeWhile_run inNumeral stopsAt_nil
  rw [natural, whole, withoutSeparators?_digits all]
  obtain ⟨digit, rest, rfl⟩ := List.exists_cons_of_ne_nil nonempty
  simp only [Nat.not_lt.mpr short, Nat.lt_irrefl, if_false, digitsValue_decimal all]

theorem isBlank_of_isDigit (decimal : digit.isDigit = true) : isBlank digit = false := by
  obtain ⟨least, most⟩ := Char.isDigit_iff_toNat.mp decimal
  have apart : ∀ range ∈ blankRanges, range.2 < '0'.toNat ∨ '9'.toNat < range.1 := by decide
  rw [isBlank, ← Bool.not_eq_true]
  intro blank
  obtain ⟨range, member, lower, upper⟩ := Ranges.range_of_contains blank
  have outside := apart range member
  omega

theorem trimPadding_digits (all : AllDigits digits) (nonempty : digits ≠ []) :
    trimPadding digits = digits := by
  have solid : ∀ character ∈ digits, isPadding character = false := by
    intro character member
    rw [isPadding, isBlank_of_isDigit (all character member), Bool.false_and]
  have kept : trimPadding ([] ++ digits ++ []) = digits := dropEnds_solid nonempty solid (by simp) (by simp)
  rwa [List.nil_append, List.append_nil] at kept

theorem allDigits_toString (value : Nat) : AllDigits (toString value).toList := by
  have digits : (toString value).toList = Nat.toDigits 10 value := Nat.toList_repr
  exact digits ▸ Double.allDigits_toDigits value

theorem toString_ne_nil (value : Nat) : (toString value).toList ≠ [] := by
  have digits : (toString value).toList = Nat.toDigits 10 value := Nat.toList_repr
  exact digits ▸ Nat.toDigits_ne_nil

theorem wholeNumber?_toString {value : Nat} (fits : LongNumber.fits value = true) :
    wholeNumber? (toString value) = some (value : Int) := by
  have all := Double.allDigits_toDigits value
  have nonempty : Nat.toDigits 10 value ≠ [] := Nat.toDigits_ne_nil
  rw [LongNumber.fits, decide_eq_true_eq, Int.natAbs_natCast, Nat.pow_eq] at fits
  have short : (Nat.toDigits 10 value).length ≤ LongNumber.digitLimit := by
    rwa [Nat.length_toDigits_le_iff (by decide) (by decide)]
  have read := natural_digits all nonempty short
  rw [Double.digitsValue_toDigits] at read
  have text : (toString value).toList = Nat.toDigits 10 value := Nat.toList_repr
  rw [wholeNumber?, wholeNumber, text, trimPadding_digits all nonempty]
  -- A text of digits begins with no sign.
  split
  · next digits signed =>
      have isDigit := all '+' (signed ▸ List.mem_cons_self)
      exact absurd isDigit (by decide)
  · next digits signed =>
      have isDigit := all '-' (signed ▸ List.mem_cons_self)
      exact absurd isDigit (by decide)
  · rw [read]
    rfl

end LoadScript.Text
