import LoadScript.Json.Printer
import LoadScript.Json.Scanner
import LoadScript.Proofs.Number.Characters

/-!
Numbers that are written as JSON text are read again, with the text behind them left.
-/

namespace LoadScript.Json

variable {dialect : Dialect}

open Double (digitsValue)
open Double.Spelling (AllDigits signText fractionText powerText)

def endsNumber (character : Char) : Bool :=
  character = ',' || character = '}' || character = ']' || isGap character

def FollowsNumber (rest : List Char) : Prop := ∀ character ∈ rest.head?, endsNumber character = true

theorem eq_of_endsNumber {character : Char} (ends : endsNumber character = true) :
    character ∈ [',', '}', ']', ' ', '\t', '\n', '\r'] := by
  simp only [endsNumber, isGap, Bool.or_eq_true, decide_eq_true_eq] at ends
  simp only [List.mem_cons, List.not_mem_nil, or_false]
  rcases ends with ((comma | brace) | bracket) | ((space | tab) | feed) | back
  · exact .inl comma
  · exact .inr (.inl brace)
  · exact .inr (.inr (.inl bracket))
  · exact .inr (.inr (.inr (.inl space)))
  · exact .inr (.inr (.inr (.inr (.inl tab))))
  · exact .inr (.inr (.inr (.inr (.inr (.inl feed)))))
  · exact .inr (.inr (.inr (.inr (.inr (.inr back)))))

theorem FollowsNumber.stopsAt {kind : Char → Bool} {rest : List Char} (follows : FollowsNumber rest)
    (others : ∀ character ∈ [',', '}', ']', ' ', '\t', '\n', '\r'], kind character = false) :
    Text.StopsAt kind rest := by
  intro character found
  exact others character (eq_of_endsNumber (follows character found))

theorem wholePart?_append {digits rest : List Char} (all : AllDigits digits) (nonempty : digits ≠ [])
    (lead : digits = ['0'] ∨ digits.head? ≠ some '0') (stops : Text.StopsAt Char.isDigit rest) :
    wholePart? (digits ++ rest) = some (digits, rest) := by
  rcases lead with rfl | lead
  · rfl
  · obtain ⟨digit, others, rfl⟩ := List.exists_cons_of_ne_nil nonempty
    have digitIs := all digit List.mem_cons_self
    have othersAre : AllDigits others := fun character found =>
      all character (List.mem_cons_of_mem _ found)
    rw [List.cons_append, wholePart?, if_pos digitIs, Text.takeWhile_run othersAre stops,
      Text.dropWhile_run othersAre stops]
    intro same
    exact lead (congrArg some same)

theorem fraction_append {digits rest : List Char} (all : AllDigits digits)
    (stops : Text.StopsAt (fun character => character.isDigit || character = '.') rest) :
    fraction (fractionText digits ++ rest) = (fractionText digits, rest) := by
  cases digits with
  | nil =>
      rw [fractionText, List.nil_append, fraction]
      intro digit others same
      rw [same] at stops
      exact absurd (Text.stopsAt_cons.mp stops) (by decide)
  | cons digit others =>
      have digitIs := all digit List.mem_cons_self
      have othersAre : AllDigits others := fun character found =>
        all character (List.mem_cons_of_mem _ found)
      have digitsStop : Text.StopsAt Char.isDigit rest := by
        intro character found
        have := stops character found
        simp only [Bool.or_eq_false_iff] at this
        exact this.1
      rw [Double.Spelling.fractionText_of_ne_nil (by simp), List.cons_append, List.cons_append,
        fraction, if_pos digitIs, Text.takeWhile_run othersAre digitsStop,
        Text.dropWhile_run othersAre digitsStop]

theorem power_none {rest : List Char}
    (stops : Text.StopsAt (fun character => character = 'e' || character = 'E') rest) :
    power rest = ([], rest) := by
  cases rest with
  | nil => rfl
  | cons character rest =>
      have := Text.stopsAt_cons.mp stops
      simp only [Bool.or_eq_false_iff, decide_eq_false_iff_not] at this
      simp [power, this]

theorem power_some (negative : Bool) {digits rest : List Char} (all : AllDigits digits)
    (nonempty : digits ≠ []) (stops : Text.StopsAt Char.isDigit rest) :
    power (powerText (some (negative, digits)) ++ rest) =
      (powerText (some (negative, digits)), rest) := by
  have hasDigits : digits.isEmpty = false := List.isEmpty_eq_false_iff.mpr nonempty
  cases negative <;>
    simp [power, powerText, Text.takeWhile_run all stops, Text.dropWhile_run all stops, hasDigits]

def unsignedNumber (dialect : Dialect) (text sign unsigned : List Char) : Except Fault (Json × List Char) :=
  match wholePart? unsigned with
  | none => .error (.at .expectedValue text)
  | some (digits, rest) =>
      let (fraction, rest) := fraction rest
      let (power, rest) := power rest
      if !fraction.isEmpty || !power.isEmpty then
        let numeral := sign ++ digits ++ fraction ++ power
        .ok (.real ((Double.ofNumeral? numeral).getD .notANumber), rest)
      else if dialect.digitLimit < digits.length then
        .error (.overrun (.longNumber (.read digits.length)))
      else
        let value := Int.ofNat (digitsValue digits)
        .ok (.whole (if sign.isEmpty then value else -value), rest)

def splitSign : List Char → List Char × List Char
  | '-' :: rest => (['-'], rest)
  | rest => ([], rest)

theorem number_eq (text : List Char) :
    number dialect text = unsignedNumber dialect text (splitSign text).1 (splitSign text).2 := rfl

theorem splitSign_of_isDigit {digit : Char} (isDigit : digit.isDigit = true) (rest : List Char) :
    splitSign (digit :: rest) = ([], digit :: rest) := by
  rw [splitSign]
  intro text same
  rw [(List.cons.inj same).1] at isDigit
  exact absurd isDigit (by decide)

theorem number_signed (negative : Bool) {digits : List Char} (all : AllDigits digits)
    (nonempty : digits ≠ []) (rest : List Char) :
    number dialect (signText negative ++ (digits ++ rest)) =
      unsignedNumber dialect (signText negative ++ (digits ++ rest)) (signText negative)
        (digits ++ rest) := by
  obtain ⟨digit, others, rfl⟩ := List.exists_cons_of_ne_nil nonempty
  cases negative with
  | true => rfl
  | false =>
      rw [signText, if_neg Bool.false_ne_true, List.nil_append, List.cons_append, number_eq,
        splitSign_of_isDigit (all digit List.mem_cons_self)]

theorem number_spelled (negative : Bool) {spelling : Double.Spelling} (proper : spelling.IsProper)
    {rest : List Char} (follows : FollowsNumber rest) :
    number dialect (signText negative ++ spelling.text ++ rest) =
      .ok (.real (spelling.value negative), rest) := by
  have read := Double.Spelling.ofNumeral?_text negative proper
  have powerStops := Double.Spelling.powerText_stops spelling.power rest
    (follows.stopsAt (by decide))
  have wholeStops := Double.Spelling.fractionText_stops spelling rest (follows.stopsAt (by decide))
  have wholeRead := wholePart?_append proper.whole_digits proper.whole_ne_nil proper.whole_head
    wholeStops
  have pointStops : Text.StopsAt (fun character => character.isDigit || character = '.')
      (powerText spelling.power ++ rest) := by
    cases spelling.power with
    | none => exact follows.stopsAt (by decide)
    | some power => exact Text.stopsAt_cons.mpr rfl
  have fractionRead := fraction_append proper.fraction_digits pointStops
  have powerRead : power (powerText spelling.power ++ rest) = (powerText spelling.power, rest) := by
    cases powerEq : spelling.power with
    | none => exact power_none (follows.stopsAt (by decide))
    | some power =>
        obtain ⟨digitsAre, nonempty⟩ := proper.power_digits _ _ powerEq
        exact power_some _ digitsAre nonempty (follows.stopsAt (by decide))
  have marked : (!(fractionText spelling.fraction).isEmpty || !(powerText spelling.power).isEmpty) =
      true := by
    rcases proper.marked with fractionMarked | powerMarked
    · rw [Double.Spelling.fractionText_of_ne_nil fractionMarked]
      rfl
    · obtain ⟨power, powerEq⟩ := Option.ne_none_iff_exists'.mp powerMarked
      rw [powerEq, powerText, List.isEmpty_cons, Bool.not_false, Bool.or_true]
  simp only [Double.Spelling.text, List.append_assoc] at read ⊢
  rw [number_signed negative proper.whole_digits proper.whole_ne_nil, unsignedNumber, wholeRead]
  simp only [fractionRead, powerRead, marked, ↓reduceIte, List.append_assoc, read, Option.getD_some]

theorem number_digits (negative : Bool) {digits rest : List Char} (all : AllDigits digits)
    (nonempty : digits ≠ []) (lead : digits = ['0'] ∨ digits.head? ≠ some '0')
    (short : digits.length ≤ dialect.digitLimit) (follows : FollowsNumber rest) :
    number dialect (signText negative ++ digits ++ rest) =
      .ok (.whole (if negative then -Int.ofNat (digitsValue digits) else digitsValue digits),
        rest) := by
  have wholeRead := wholePart?_append all nonempty lead (follows.stopsAt (by decide))
  have fractionRead : fraction rest = ([], rest) :=
    @fraction_append [] rest (by simp [AllDigits]) (follows.stopsAt (by decide))
  have powerRead : power rest = ([], rest) := power_none (follows.stopsAt (by decide))
  rw [List.append_assoc, number_signed negative all nonempty, unsignedNumber, wholeRead]
  simp only [fractionRead, powerRead, List.isEmpty_nil, Bool.not_true, Bool.or_false,
    Bool.false_eq_true, ↓reduceIte, if_neg (Nat.not_lt.mpr short)]
  cases negative <;> rfl

theorem number_whole {value : Int} (fits : dialect.takes value = true) {rest : List Char}
    (follows : FollowsNumber rest) :
    number dialect ((toString value).toList ++ rest) = .ok (.whole value, rest) := by
  have all := Double.allDigits_toDigits value.natAbs
  have nonempty : Nat.toDigits 10 value.natAbs ≠ [] := Nat.toDigits_ne_nil
  have lead : Nat.toDigits 10 value.natAbs = ['0'] ∨
      (Nat.toDigits 10 value.natAbs).head? ≠ some '0' := by
    rcases Nat.eq_zero_or_pos value.natAbs with zero | positive
    · rw [zero]
      exact .inl rfl
    · exact .inr (Double.toDigits_head_ne_zero positive)
  have short : (Nat.toDigits 10 value.natAbs).length ≤ dialect.digitLimit := by
    rw [Nat.length_toDigits_le_iff (by decide) dialect.digitLimit_pos]
    exact of_decide_eq_true fits
  rw [Double.toList_toString, number_digits _ all nonempty lead short follows, Double.digitsValue_toDigits]
  by_cases negative : value < 0
  · rw [decide_eq_true negative, if_pos rfl, show -Int.ofNat value.natAbs = value by
      rw [Int.ofNat_eq_natCast]; omega]
  · rw [decide_eq_false negative, if_neg Bool.false_ne_true, show (value.natAbs : Int) = value by
      omega]

theorem number_real (dialect : Dialect) (negative : Bool) {mantissa exponent : Nat}
    (normal : Double.IsNormal mantissa exponent) {rest : List Char} (follows : FollowsNumber rest) :
    number dialect ((Double.finiteText negative mantissa exponent).toList ++ rest) =
      .ok (.real (.finite negative mantissa exponent), rest) := by
  obtain ⟨spelling, proper, textEq, valueEq⟩ := Double.finiteText_spelled negative normal
  rw [textEq, number_spelled negative proper follows, valueEq]

end LoadScript.Json
