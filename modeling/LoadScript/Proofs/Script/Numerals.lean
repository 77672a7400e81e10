import LoadScript.Proofs.Number.Characters
import LoadScript.Script.Literal
import LoadScript.Script.Numbers

/-!
How numbers are written in scripts. The text of a finite number is a decimal numeral; the texts of the others
are no code for a number.
-/

namespace LoadScript.Double

/-- The shortest decimal of a number has a digit other than zero, also if the number is not in its one form. -/
theorem shortest_digits_pos {mantissa exponent : Nat} (nonzero : mantissa ≠ 0) :
    0 < (shortest mantissa exponent).digits := by
  rw [shortest]
  generalize search : List.findSome? _ _ = result
  cases result with
  | none => exact Nat.pos_of_ne_zero nonzero
  | some decimal =>
      obtain ⟨place, -, found⟩ := List.exists_of_findSome?_eq_some search
      simp only [Option.map_eq_some_iff] at found
      obtain ⟨point, found, rfl⟩ := found
      exact digits_pos nonzero (roundsTo_of_gridPoint? found)

end LoadScript.Double

namespace LoadScript.Script

open Double (positionalSpelling scientificSpelling)
open Double.Spelling (AllDigits signText)

/-! Decimal numerals. -/

structure IsLead (text : List Char) : Prop where
  digits : AllDigits text
  nonempty : text ≠ []
  head : text = ['0'] ∨ text.head? ≠ some '0'

inductive IsPower : List Char → Prop where
  | absent : IsPower []
  | present {mark : Char} {sign digits : List Char} (marked : mark = 'e' ∨ mark = 'E')
      (signed : sign = [] ∨ sign = ['+'] ∨ sign = ['-']) (digital : AllDigits digits)
      (nonempty : digits ≠ []) : IsPower (mark :: (sign ++ digits))

inductive IsNumeral : List Char → Prop where
  | whole {lead power : List Char} (leads : IsLead lead) (scaled : IsPower power) :
      IsNumeral (lead ++ power)
  | pointed {lead fraction power : List Char} (leads : IsLead lead) (digital : AllDigits fraction)
      (scaled : IsPower power) : IsNumeral (lead ++ '.' :: (fraction ++ power))
  | fraction {fraction power : List Char} (digital : AllDigits fraction) (nonempty : fraction ≠ [])
      (scaled : IsPower power) : IsNumeral ('.' :: (fraction ++ power))

def IsNumberCode (code : List Char) : Prop :=
  ∃ negative size, code = signText negative ++ size ∧
    (IsNumeral size ∨ size = "NaN".toList ∨ size = "Infinity".toList)

theorem IsNumeral.starts {text : List Char} (numeral : IsNumeral text) :
    ∃ first rest, text = first :: rest ∧ (first.isDigit = true ∨ first = '.') := by
  have leading {lead : List Char} (leads : IsLead lead) (rest : List Char) :
      ∃ first others, lead ++ rest = first :: others ∧ (first.isDigit = true ∨ first = '.') := by
    obtain ⟨first, others, rfl⟩ := List.exists_cons_of_ne_nil leads.nonempty
    exact ⟨first, others ++ rest, rfl, .inl (leads.digits first List.mem_cons_self)⟩
  cases numeral with
  | whole leads => exact leading leads _
  | pointed leads => exact leading leads _
  | fraction => exact ⟨'.', _, rfl, .inr rfl⟩

theorem IsNumberCode.ofNumeral (negative : Bool) {size : List Char} (numeral : IsNumeral size) :
    IsNumberCode (signText negative ++ size) := ⟨negative, size, rfl, .inl numeral⟩

theorem not_isNumberCode_letter (negative : Bool) {first : Char} {rest : List Char}
    (letter : first ≠ '-' ∧ first.isDigit = false ∧ first ≠ '.' ∧ first ≠ 'N' ∧ first ≠ 'I') :
    ¬IsNumberCode (signText negative ++ first :: rest) := by
  rintro ⟨minus, size, same, code⟩
  -- A size starts with no minus sign, so that the signs of both readings are the same.
  have starts : ∃ other others, size = other :: others ∧ other ≠ '-' ∧ other ≠ first := by
    rcases code with numeral | rfl | rfl
    · obtain ⟨other, others, sizeEq, kind⟩ := numeral.starts
      refine ⟨other, others, sizeEq, ?_, ?_⟩
      · rintro rfl
        exact absurd kind (by decide)
      · rintro rfl
        rcases kind with digit | point
        · exact absurd (letter.2.1.symm.trans digit) (by decide)
        · exact letter.2.2.1 point
    · exact ⟨'N', _, rfl, by decide, letter.2.2.2.1.symm⟩
    · exact ⟨'I', _, rfl, by decide, letter.2.2.2.2.symm⟩
  obtain ⟨other, others, rfl, noMinus, different⟩ := starts
  cases negative <;> cases minus <;>
    simp only [signText, Bool.false_eq_true, if_false, if_true, List.nil_append, List.cons_append,
      List.cons.injEq] at same
  · exact different same.1.symm
  · exact letter.1 same.1
  · exact noMinus same.1.symm
  · exact different same.2.1.symm

/-! The texts of numbers. -/

theorem isNumeral_spelling {spelling : Double.Spelling} (proper : spelling.IsProper) :
    IsNumeral spelling.text := by
  have leads : IsLead spelling.whole := ⟨proper.whole_digits, proper.whole_ne_nil, proper.whole_head⟩
  have scaled : IsPower (Double.Spelling.powerText spelling.power) := by
    cases power : spelling.power with
    | none => exact .absent
    | some written =>
        obtain ⟨negative, digits⟩ := written
        obtain ⟨digital, nonempty⟩ := proper.power_digits negative digits power
        cases negative with
        | false => exact .present (.inl rfl) (.inr (.inl rfl)) digital nonempty
        | true => exact .present (.inl rfl) (.inr (.inr rfl)) digital nonempty
  rw [Double.Spelling.text]
  cases fraction : spelling.fraction with
  | nil => exact .whole leads scaled
  | cons digit rest => exact .pointed leads (fraction ▸ proper.fraction_digits) scaled

theorem isNumeral_decimalText {decimal : Double.Decimal} (positive : 0 < decimal.digits) :
    IsNumeral (Double.decimalText decimal) := by
  have digital := Double.allDigits_toDigits decimal.digits
  have nonempty : Nat.toDigits 10 decimal.digits ≠ [] := Nat.toDigits_ne_nil
  have lead := Double.toDigits_head_ne_zero positive
  rw [Double.decimalText]
  split
  · rw [← Double.positionalSpelling_text nonempty]
    exact isNumeral_spelling (Double.positionalSpelling_isProper digital nonempty lead _)
  · rw [← Double.scientificSpelling_text]
    exact isNumeral_spelling (Double.scientificSpelling_isProper digital nonempty lead _)

theorem isNumberCode_finiteText (negative : Bool) (mantissa exponent : Nat) :
    IsNumberCode (Double.finiteText negative mantissa exponent).toList := by
  have signed (size : List Char) :
      (if negative then '-' :: size else size) = signText negative ++ size := by
    cases negative <;> rfl
  rw [Double.finiteText, String.toList_ofList, signed]
  refine .ofNumeral negative ?_
  split
  · have zero : Double.Spelling.IsProper ⟨['0'], ['0'], none⟩ :=
      ⟨Double.allDigits_zeros 1, by simp, .inl rfl, Double.allDigits_zeros 1, by simp, .inl (by simp)⟩
    exact isNumeral_spelling zero
  · next nonzero => exact isNumeral_decimalText (Double.shortest_digits_pos nonzero)

theorem isNumberCode_toString (value : Int) : IsNumberCode (toString value).toList := by
  have digital := Double.allDigits_toDigits value.natAbs
  have nonempty : Nat.toDigits 10 value.natAbs ≠ [] := Nat.toDigits_ne_nil
  have leads : IsLead (Nat.toDigits 10 value.natAbs) := by
    refine ⟨digital, nonempty, ?_⟩
    rcases Nat.eq_zero_or_pos value.natAbs with zero | positive
    · exact .inl (by rw [zero]; rfl)
    · exact .inr (Double.toDigits_head_ne_zero positive)
  have numeral := IsNumeral.whole leads .absent
  rw [List.append_nil] at numeral
  rw [Double.toList_toString]
  exact .ofNumeral _ numeral

theorem isNumberCode_text_iff (value : Double) :
    IsNumberCode value.text.toList ↔ value.finite?.isSome = true := by
  cases value with
  | notANumber =>
      have noCode : ¬IsNumberCode Double.notANumber.text.toList :=
        not_isNumberCode_letter false (by decide)
      exact iff_of_false noCode Bool.false_ne_true
  | infinity negative =>
      have noCode : ¬IsNumberCode (Double.infinity negative).text.toList := by
        cases negative with
        | false => exact not_isNumberCode_letter false (by decide)
        | true => exact not_isNumberCode_letter true (by decide)
      exact iff_of_false noCode Bool.false_ne_true
  | finite negative mantissa exponent =>
      exact iff_of_true (isNumberCode_finiteText negative mantissa exponent) rfl

theorem isNumberCode_numberText_iff (number : Number) :
    IsNumberCode (numberText number).toList ↔ number.isFinite = true := by
  cases number with
  | whole value => exact iff_of_true (isNumberCode_toString value) rfl
  | real value =>
      rw [numberText, Number.isFinite]
      split
      · next whole isWhole =>
          refine iff_of_true (isNumberCode_toString whole) ?_
          cases value with
          | finite => rfl
          | notANumber | infinity => cases isWhole
      · exact isNumberCode_text_iff value
  | truth value =>
      have noCode : ¬IsNumberCode (numberText (.truth value)).toList := by
        cases value with
        | false => exact not_isNumberCode_letter false (by decide)
        | true => exact not_isNumberCode_letter false (by decide)
      exact iff_of_false noCode Bool.false_ne_true

end LoadScript.Script
