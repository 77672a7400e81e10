import LoadScript.Number.Numeral
import LoadScript.Proofs.Number.Decimal
import LoadScript.Proofs.Text.Runs

/-!
The text of a finite number is read as that number. Such a text spells digits before and behind a point, and
perhaps a power of ten.
-/

namespace LoadScript.Double

structure Spelling where
  whole : List Char
  fraction : List Char
  power : Option (Bool × List Char)

namespace Spelling

def fractionText : List Char → List Char
  | [] => []
  | digits => '.' :: digits

def powerText : Option (Bool × List Char) → List Char
  | none => []
  | some (negative, digits) => 'e' :: (if negative then '-' else '+') :: digits

def text (spelling : Spelling) : List Char :=
  spelling.whole ++ (fractionText spelling.fraction ++ powerText spelling.power)

def powerValue : Option (Bool × List Char) → Int
  | none => 0
  | some (negative, digits) =>
      if negative then -Int.ofNat (digitsValue digits) else digitsValue digits

def value (negative : Bool) (spelling : Spelling) : Double :=
  ofDecimal negative (digitsValue (spelling.whole ++ spelling.fraction))
    (powerValue spelling.power - spelling.fraction.length)

def AllDigits (digits : List Char) : Prop := ∀ character ∈ digits, character.isDigit = true

structure IsProper (spelling : Spelling) : Prop where
  whole_digits : AllDigits spelling.whole
  whole_ne_nil : spelling.whole ≠ []
  whole_head : spelling.whole = ['0'] ∨ spelling.whole.head? ≠ some '0'
  fraction_digits : AllDigits spelling.fraction
  power_digits : ∀ negative digits, spelling.power = some (negative, digits) →
    AllDigits digits ∧ digits ≠ []
  marked : spelling.fraction ≠ [] ∨ spelling.power ≠ none

theorem fractionText_of_ne_nil {digits : List Char} (nonempty : digits ≠ []) :
    fractionText digits = '.' :: digits := by
  cases digits with
  | nil => exact absurd rfl nonempty
  | cons digit rest => rfl

theorem powerText_stops (power : Option (Bool × List Char)) (rest : List Char)
    (stops : Text.StopsAt Char.isDigit rest) :
    Text.StopsAt Char.isDigit (powerText power ++ rest) := by
  cases power with
  | none => exact stops
  | some power => exact Text.stopsAt_cons.mpr rfl

theorem fractionText_stops (spelling : Spelling) (rest : List Char)
    (stops : Text.StopsAt Char.isDigit rest) :
    Text.StopsAt Char.isDigit
      (fractionText spelling.fraction ++ (powerText spelling.power ++ rest)) := by
  cases spelling.fraction with
  | nil => exact powerText_stops spelling.power rest stops
  | cons digit digits => exact Text.stopsAt_cons.mpr rfl

theorem powerOfTen?_powerText {spelling : Spelling} (proper : spelling.IsProper) :
    powerOfTen? (powerText spelling.power) = some (powerValue spelling.power) := by
  cases powerEq : spelling.power with
  | none => rfl
  | some power =>
      obtain ⟨negative, digits⟩ := power
      obtain ⟨all, nonempty⟩ := proper.power_digits negative digits powerEq
      have digitsOnly : (digits.isEmpty || digits.any (!·.isDigit)) = false := by
        simp only [Bool.or_eq_false_iff, List.isEmpty_eq_false_iff, List.any_eq_false]
        refine ⟨nonempty, ?_⟩
        intro character found
        simp [all character found]
      cases negative <;> simp [powerText, powerOfTen?, digitsOnly, powerValue]

theorem magnitude?_text (negative : Bool) {spelling : Spelling} (proper : spelling.IsProper) :
    magnitude? negative spelling.text = some (spelling.value negative) := by
  have powerRead := powerOfTen?_powerText proper
  have powerStops := powerText_stops spelling.power [] Text.stopsAt_nil
  have wholeStops := fractionText_stops spelling [] Text.stopsAt_nil
  rw [List.append_nil] at powerStops wholeStops
  have wholeTaken := Text.takeWhile_run proper.whole_digits wholeStops
  have wholeDropped := Text.dropWhile_run proper.whole_digits wholeStops
  have fractionTaken := Text.takeWhile_run proper.fraction_digits powerStops
  have fractionDropped := Text.dropWhile_run proper.fraction_digits powerStops
  have wholeNonempty : spelling.whole.isEmpty = false :=
    List.isEmpty_eq_false_iff.mpr proper.whole_ne_nil
  simp only [magnitude?, text, wholeTaken, wholeDropped, value]
  cases fractionEq : spelling.fraction with
  | nil =>
      rw [fractionText, List.nil_append]
      have noPoint : ∀ rest, powerText spelling.power ≠ '.' :: rest := by
        intro rest same
        cases powerEq : spelling.power with
        | none => simp [powerEq, powerText] at same
        | some power => simp [powerEq, powerText] at same
      split
      · next found => exact absurd found (noPoint _)
      · rw [wholeNonempty, Bool.false_and, if_neg Bool.false_ne_true, powerRead]
        rfl
  | cons digit digits =>
      rw [fractionEq] at fractionTaken fractionDropped
      simp only [fractionText, List.cons_append] at fractionTaken fractionDropped ⊢
      rw [fractionTaken, fractionDropped, wholeNonempty, Bool.false_and,
        if_neg Bool.false_ne_true, powerRead]
      rfl

def signText (negative : Bool) : List Char := if negative then ['-'] else []

theorem isDigit_head_of_isProper {spelling : Spelling} (proper : spelling.IsProper) :
    ∃ digit rest, spelling.text = digit :: rest ∧ digit.isDigit = true := by
  cases wholeEq : spelling.whole with
  | nil => exact absurd wholeEq proper.whole_ne_nil
  | cons digit digits =>
      refine ⟨digit, digits ++ _, by rw [text, wholeEq]; rfl, ?_⟩
      exact proper.whole_digits digit (by rw [wholeEq]; exact List.mem_cons_self)

theorem toLower_of_isDigit {character : Char} (digit : character.isDigit = true) :
    character.toLower = character := by
  simp only [Char.isDigit, Bool.and_eq_true, decide_eq_true_eq] at digit
  delta Char.toLower
  rw [dif_neg]
  intro upper
  have : (65 : UInt32) ≤ 57 := UInt32.le_trans upper.1 digit.2
  exact absurd this (by decide)

def ofUnsigned? (negative : Bool) (text : List Char) : Option Double :=
  match String.ofList (text.map Char.toLower) with
  | "nan" => some .notANumber
  | "inf" | "infinity" => some (.infinity negative)
  | _ => magnitude? negative text

def unsigned : List Char → Bool × List Char
  | '-' :: text => (true, text)
  | '+' :: text => (false, text)
  | text => (false, text)

theorem ofNumeral?_eq (text : List Char) :
    ofNumeral? text = ofUnsigned? (unsigned text).1 (unsigned text).2 := rfl

theorem unsigned_of_isDigit {digit : Char} (isDigit : digit.isDigit = true) (rest : List Char) :
    unsigned (digit :: rest) = (false, digit :: rest) := by
  rw [unsigned]
  · intro text same
    rw [(List.cons.inj same).1] at isDigit
    exact absurd isDigit (by decide)
  · intro text same
    rw [(List.cons.inj same).1] at isDigit
    exact absurd isDigit (by decide)

theorem ofNumeral?_text (negative : Bool) {spelling : Spelling} (proper : spelling.IsProper) :
    ofNumeral? (signText negative ++ spelling.text) = some (spelling.value negative) := by
  have read := magnitude?_text negative proper
  obtain ⟨digit, rest, textEq, isDigit⟩ := isDigit_head_of_isProper proper
  have notWord (word : String) (first : Char) (letters : List Char)
      (wordEq : word.toList = first :: letters) (letter : first.isDigit = false) :
      String.ofList ((digit :: rest).map Char.toLower) ≠ word := by
    intro same
    rw [← same, String.toList_ofList, List.map_cons, toLower_of_isDigit isDigit] at wordEq
    rw [(List.cons.inj wordEq).1, letter] at isDigit
    exact absurd isDigit Bool.false_ne_true
  rw [textEq] at read ⊢
  have unsignedRead : ofUnsigned? negative (digit :: rest) = some (spelling.value negative) := by
    rw [ofUnsigned?]
    split
    · next same => exact absurd same (notWord "nan" _ _ rfl rfl)
    · next same => exact absurd same (notWord "inf" _ _ rfl rfl)
    · next same => exact absurd same (notWord "infinity" _ _ rfl rfl)
    · exact read
  rw [ofNumeral?_eq]
  cases negative with
  | true => exact unsignedRead
  | false =>
      rw [signText, if_neg Bool.false_ne_true, List.nil_append, unsigned_of_isDigit isDigit]
      exact unsignedRead

end Spelling

open Spelling

def positionalSpelling (digits : List Char) (point : Int) : Spelling :=
  if point ≤ 0 then ⟨['0'], List.replicate (-point).toNat '0' ++ digits, none⟩
  else if digits.length ≤ point.toNat then
    ⟨digits ++ List.replicate (point.toNat - digits.length) '0', ['0'], none⟩
  else ⟨digits.take point.toNat, digits.drop point.toNat, none⟩

def scientificSpelling (digits : List Char) (power : Int) : Spelling :=
  let exponent := Nat.toDigits 10 power.natAbs
  ⟨digits.take 1, digits.drop 1,
    some (power < 0, List.replicate (2 - exponent.length) '0' ++ exponent)⟩

theorem positionalSpelling_text {digits : List Char} (nonempty : digits ≠ []) (point : Int) :
    (positionalSpelling digits point).text = positional digits point := by
  rw [positional, positionalSpelling]
  split
  · have someDigits : List.replicate (-point).toNat '0' ++ digits ≠ [] :=
      List.append_ne_nil_of_right_ne_nil _ nonempty
    simp only [Spelling.text, fractionText_of_ne_nil someDigits, powerText, List.append_nil]
    rfl
  · split
    · simp only [Spelling.text, fractionText, powerText, List.append_nil]
    · next short =>
        have someDigits : digits.drop point.toNat ≠ [] := by
          rw [ne_eq, List.drop_eq_nil_iff]
          exact short
        simp only [Spelling.text, fractionText_of_ne_nil someDigits, powerText, List.append_nil]

theorem scientificSpelling_text (digits : List Char) (power : Int) :
    (scientificSpelling digits power).text = scientific digits power := by
  have fractionEq : fractionText (digits.drop 1) =
      if digits.length ≤ 1 then [] else '.' :: digits.drop 1 := by
    split
    · next short => rw [List.drop_eq_nil_of_le short, fractionText]
    · next long =>
        apply fractionText_of_ne_nil
        rw [ne_eq, List.drop_eq_nil_iff]
        exact long
  simp only [scientific, scientificSpelling, Spelling.text, fractionEq, powerText,
    decide_eq_true_eq, List.append_assoc, List.cons_append, List.nil_append]

theorem allDigits_toDigits (value : Nat) : AllDigits (Nat.toDigits 10 value) := by
  intro character found
  exact Nat.isDigit_of_mem_toDigits (by decide) (by decide) found

theorem allDigits_zeros (count : Nat) : AllDigits (List.replicate count '0') := by
  intro character found
  rw [List.eq_of_mem_replicate found]
  rfl

theorem allDigits_append {first second : List Char} (firstDigits : AllDigits first)
    (secondDigits : AllDigits second) : AllDigits (first ++ second) := by
  intro character found
  rcases List.mem_append.mp found with left | right
  · exact firstDigits character left
  · exact secondDigits character right

theorem head?_append_of_ne_nil {first second : List Char} (nonempty : first ≠ []) :
    (first ++ second).head? = first.head? := by
  obtain ⟨character, rest, rfl⟩ := List.exists_cons_of_ne_nil nonempty
  rfl

theorem toDigits_head_ne_zero {value : Nat} (positive : 0 < value) :
    (Nat.toDigits 10 value).head? ≠ some '0' := by
  induction value using Nat.strongRecOn with
  | ind value shorter =>
      rw [Nat.toDigits_eq_if (by decide)]
      split
      · next single =>
          have : ∀ digit : Fin 10, 0 < digit.val → Nat.digitChar digit.val ≠ '0' := by decide
          intro same
          exact this ⟨value, single⟩ positive (Option.some.inj same)
      · next large =>
          have rest : 0 < value / 10 := Nat.div_pos (by omega) (by decide)
          rw [head?_append_of_ne_nil Nat.toDigits_ne_nil]
          exact shorter (value / 10) (by omega) rest

theorem positionalSpelling_isProper {digits : List Char} (all : AllDigits digits)
    (nonempty : digits ≠ []) (lead : digits.head? ≠ some '0') (point : Int) :
    (positionalSpelling digits point).IsProper := by
  rw [positionalSpelling]
  split
  · refine ⟨allDigits_zeros 1, by simp, .inl rfl, ?_, by simp, .inl ?_⟩
    · exact allDigits_append (allDigits_zeros _) all
    · exact List.append_ne_nil_of_right_ne_nil _ nonempty
  · split
    · refine ⟨?_, ?_, .inr ?_, allDigits_zeros 1, by simp, .inl (by simp)⟩
      · exact allDigits_append all (allDigits_zeros _)
      · exact List.append_ne_nil_of_left_ne_nil nonempty _
      · rw [head?_append_of_ne_nil nonempty]
        exact lead
    · next above short =>
        obtain ⟨digit, rest, rfl⟩ := List.exists_cons_of_ne_nil nonempty
        obtain ⟨before, beforeEq⟩ : ∃ before, point.toNat = before + 1 :=
          ⟨point.toNat - 1, by omega⟩
        refine ⟨?_, ?_, .inr ?_, ?_, by simp, .inl ?_⟩
        · intro character found
          exact all character (List.mem_of_mem_take found)
        · simp [beforeEq]
        · simp only [beforeEq, List.take_succ_cons, List.head?_cons]
          exact lead
        · intro character found
          exact all character (List.mem_of_mem_drop found)
        · rw [ne_eq, List.drop_eq_nil_iff]
          exact short

theorem scientificSpelling_isProper {digits : List Char} (all : AllDigits digits)
    (nonempty : digits ≠ []) (lead : digits.head? ≠ some '0') (power : Int) :
    (scientificSpelling digits power).IsProper := by
  obtain ⟨digit, rest, rfl⟩ := List.exists_cons_of_ne_nil nonempty
  refine ⟨?_, by simp [scientificSpelling], .inr lead, ?_, ?_, .inr (by simp [scientificSpelling])⟩
  · intro character found
    exact all character (List.mem_of_mem_take found)
  · intro character found
    exact all character (List.mem_of_mem_drop found)
  · intro negative exponent same
    simp only [scientificSpelling, Option.some.injEq, Prod.mk.injEq] at same
    rw [← same.2]
    constructor
    · exact allDigits_append (allDigits_zeros _) (allDigits_toDigits _)
    · exact List.append_ne_nil_of_right_ne_nil _ Nat.toDigits_ne_nil

theorem digitsValue_toDigits (value : Nat) : digitsValue (Nat.toDigits 10 value) = value :=
  Nat.ofDigitChars_ten_toDigits

theorem digitsValue_append (first second : List Char) :
    digitsValue (first ++ second) = 10 ^ second.length * digitsValue first + digitsValue second :=
  (Nat.ofDigitChars_append 0).trans Nat.ofDigitChars_eq_ofDigitChars_zero

theorem digitsValue_zeros (count : Nat) : digitsValue (List.replicate count '0') = 0 :=
  Nat.ofDigitChars_replicate_zero

theorem positionalSpelling_value (negative : Bool) {digits : List Char} {point place : Int}
    (pointEq : place + digits.length = point) :
    ∃ zeros : Nat, (positionalSpelling digits point).value negative =
      ofDecimal negative (digitsValue digits * 10 ^ zeros) (place - zeros) := by
  rw [positionalSpelling]
  split
  · refine ⟨0, ?_⟩
    simp only [Spelling.value, powerValue, ← List.append_assoc, digitsValue_append]
    rw [show ['0'] = List.replicate 1 '0' from rfl, digitsValue_zeros, digitsValue_zeros]
    simp only [List.length_append, List.length_replicate]
    congr 1
    omega
  · split
    · next above long =>
        refine ⟨point.toNat - digits.length + 1, ?_⟩
        simp only [Spelling.value, powerValue, List.append_assoc, digitsValue_append _ (_ ++ _)]
        rw [show ['0'] = List.replicate 1 '0' from rfl, List.replicate_append_replicate, digitsValue_zeros]
        simp only [List.length_replicate]
        congr 1
        · rw [Nat.mul_comm, Nat.add_zero]
        · omega
    · next above short =>
        refine ⟨0, ?_⟩
        simp only [Spelling.value, powerValue, List.take_append_drop, List.length_drop]
        congr 1
        · omega
        · omega

theorem scientificSpelling_value (negative : Bool) {digits : List Char} {power place : Int}
    (nonempty : digits ≠ []) (powerEq : place + digits.length - 1 = power) :
    (scientificSpelling digits power).value negative =
      ofDecimal negative (digitsValue digits) place := by
  have positive := List.length_pos_iff.mpr nonempty
  simp only [scientificSpelling, Spelling.value, powerValue, List.take_append_drop,
    List.length_drop, digitsValue_append, digitsValue_zeros, digitsValue_toDigits]
  congr 1
  by_cases below : power < 0
  · simp only [below, decide_true, ↓reduceIte, Int.ofNat_eq_natCast]
    omega
  · simp only [below, decide_false, Bool.false_eq_true, ↓reduceIte]
    omega

theorem decimalText_spelled (negative : Bool) {mantissa exponent : Nat} {decimal : Decimal}
    (normal : IsNormal mantissa exponent) (nonzero : mantissa ≠ 0)
    (rounds : DecimalRoundsTo mantissa exponent decimal.digits decimal.exponent) :
    ∃ spelling : Spelling, spelling.IsProper ∧ spelling.text = decimalText decimal ∧
      spelling.value negative = .finite negative mantissa exponent := by
  have all := allDigits_toDigits decimal.digits
  have nonempty : Nat.toDigits 10 decimal.digits ≠ [] := Nat.toDigits_ne_nil
  have lead := toDigits_head_ne_zero (digits_pos nonzero rounds)
  have valueEq := digitsValue_toDigits decimal.digits
  rw [decimalText]
  split
  · refine ⟨positionalSpelling _ _, ?_, positionalSpelling_text nonempty _, ?_⟩
    · exact positionalSpelling_isProper all nonempty lead _
    · obtain ⟨zeros, spelled⟩ :=
        @positionalSpelling_value negative (Nat.toDigits 10 decimal.digits) _ decimal.exponent rfl
      rw [spelled, valueEq]
      exact ofDecimal_of_roundsTo negative normal nonzero (decimalRoundsTo_shift zeros rounds)
  · refine ⟨scientificSpelling _ _, ?_, scientificSpelling_text _ _, ?_⟩
    · exact scientificSpelling_isProper all nonempty lead _
    · rw [scientificSpelling_value negative nonempty rfl, valueEq]
      exact ofDecimal_of_roundsTo negative normal nonzero rounds

theorem finiteText_spelled (negative : Bool) {mantissa exponent : Nat}
    (normal : IsNormal mantissa exponent) :
    ∃ spelling : Spelling, spelling.IsProper ∧
      (finiteText negative mantissa exponent).toList = signText negative ++ spelling.text ∧
      spelling.value negative = .finite negative mantissa exponent := by
  have signed (magnitude : List Char) :
      (if negative then '-' :: magnitude else magnitude) = signText negative ++ magnitude := by
    cases negative <;> rfl
  simp only [finiteText, String.toList_ofList, signed]
  by_cases zero : mantissa = 0
  · subst zero
    refine ⟨⟨['0'], ['0'], none⟩, ?_, rfl, ?_⟩
    · exact ⟨allDigits_zeros 1, by simp, .inl rfl, allDigits_zeros 1, by simp, .inl (by simp)⟩
    · rw [normal.exponent_eq_zero (by decide)]
      rfl
  · obtain ⟨spelling, proper, textEq, valueEq⟩ :=
      decimalText_spelled negative normal zero (shortest_roundsTo normal zero)
    exact ⟨spelling, proper, by rw [textEq, if_neg zero], valueEq⟩

theorem isCanonical_zero (negative : Bool) : IsCanonical (.finite negative 0 0) :=
  .finite ⟨by decide, fun _ => rfl, by decide⟩

theorem ofDecimal_isCanonical (negative : Bool) (digits : Nat) (place : Int) :
    IsCanonical (ofDecimal negative digits place) := by
  rw [ofDecimal]
  split
  · exact isCanonical_zero negative
  · split
    · exact .infinity
    · split
      · exact ofUnits_isCanonical negative (tenTo_pos _)
      · exact ofUnits_isCanonical negative Nat.one_pos

theorem magnitude?_isCanonical {negative : Bool} {text : List Char} {value : Double}
    (read : magnitude? negative text = some value) : value.IsCanonical := by
  simp only [magnitude?] at read
  split at read
  · split at read
    · cases read
    · obtain ⟨power, -, rfl⟩ := Option.map_eq_some_iff.mp read
      exact ofDecimal_isCanonical _ _ _
  · split at read
    · cases read
    · obtain ⟨power, -, rfl⟩ := Option.map_eq_some_iff.mp read
      exact ofDecimal_isCanonical _ _ _

theorem ofNumeral?_isCanonical {text : List Char} {value : Double}
    (read : ofNumeral? text = some value) : value.IsCanonical := by
  rw [Spelling.ofNumeral?_eq, Spelling.ofUnsigned?] at read
  split at read
  · cases read
    exact .notANumber
  · cases read
    exact .infinity
  · cases read
    exact .infinity
  · exact magnitude?_isCanonical read

theorem ofNat_isCanonical (value : Nat) : (ofNat value).IsCanonical :=
  ofUnits_isCanonical false Nat.one_pos

theorem ofInt?_isCanonical {value : Int} {number : Double} (converted : ofInt? value = some number) :
    number.IsCanonical := by
  have canonical : IsCanonical (ofUnits (value < 0) (value.natAbs * unitsPerOne) 1) :=
    ofUnits_isCanonical _ Nat.one_pos
  rw [ofInt?] at converted
  generalize ofUnits (value < 0) (value.natAbs * unitsPerOne) 1 = rounded at converted canonical
  cases rounded with
  | notANumber => cases converted
  | infinity negative => cases converted
  | finite negative mantissa exponent =>
      cases converted
      exact canonical

end LoadScript.Double
