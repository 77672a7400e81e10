import LoadScript.Proofs.Number.Numeral

/-!
The characters in the texts of numbers.
-/

namespace LoadScript.Double

open Spelling (AllDigits signText)

theorem toList_toString (value : Int) :
    (toString value).toList = signText (value < 0) ++ Nat.toDigits 10 value.natAbs := by
  rw [show toString value = value.repr from rfl, Int.repr_eq_if]
  by_cases negative : value < 0
  · rw [if_neg (by omega), show (-value).toNat = value.natAbs by omega]
    simp only [negative, decide_true, String.toList_append, Nat.toList_repr]
    rfl
  · rw [if_pos (by omega), show value.toNat = value.natAbs by omega]
    simp only [negative, decide_false, Nat.toList_repr]
    rfl

def isNumeric (character : Char) : Bool := character.isDigit || "-.e+".toList.contains character

def AllNumeric (text : List Char) : Prop := ∀ character ∈ text, isNumeric character = true

theorem allNumeric_append {first second : List Char} :
    AllNumeric (first ++ second) ↔ AllNumeric first ∧ AllNumeric second :=
  List.forall_mem_append

theorem allNumeric_cons {character : Char} {rest : List Char} :
    AllNumeric (character :: rest) ↔ isNumeric character = true ∧ AllNumeric rest :=
  List.forall_mem_cons

theorem allNumeric_of_allDigits {digits : List Char} (all : AllDigits digits) : AllNumeric digits := by
  intro character member
  simp [isNumeric, all character member]

theorem allNumeric_signText (negative : Bool) : AllNumeric (signText negative) := by
  cases negative <;> unfold AllNumeric <;> decide

theorem allNumeric_toString (value : Int) : AllNumeric (toString value).toList := by
  rw [toList_toString, allNumeric_append]
  exact ⟨allNumeric_signText _, allNumeric_of_allDigits (allDigits_toDigits _)⟩

theorem allNumeric_zeros (count : Nat) : AllNumeric (List.replicate count '0') :=
  allNumeric_of_allDigits (allDigits_zeros count)

theorem allNumeric_take {text : List Char} (all : AllNumeric text) (count : Nat) :
    AllNumeric (text.take count) :=
  fun character member => all character (List.mem_of_mem_take member)

theorem allNumeric_drop {text : List Char} (all : AllNumeric text) (count : Nat) :
    AllNumeric (text.drop count) :=
  fun character member => all character (List.mem_of_mem_drop member)

theorem allNumeric_positional {digits : List Char} (all : AllNumeric digits) (point : Int) :
    AllNumeric (positional digits point) := by
  have marks : isNumeric '0' = true ∧ isNumeric '.' = true := by decide
  have nothing : AllNumeric [] := by simp [AllNumeric]
  rw [positional]
  split
  · simp only [List.cons_append, allNumeric_cons, allNumeric_append]
    exact ⟨marks.1, marks.2, allNumeric_zeros _, all⟩
  · split
    · simp only [allNumeric_cons, allNumeric_append]
      exact ⟨⟨all, allNumeric_zeros _⟩, marks.2, marks.1, nothing⟩
    · simp only [allNumeric_cons, allNumeric_append]
      exact ⟨allNumeric_take all _, marks.2, allNumeric_drop all _⟩

theorem allNumeric_scientific {digits : List Char} (all : AllNumeric digits) (power : Int) :
    AllNumeric (scientific digits power) := by
  have fraction : AllNumeric (if digits.length ≤ 1 then [] else '.' :: digits.drop 1) := by
    split
    · simp [AllNumeric]
    · exact allNumeric_cons.mpr ⟨by decide, allNumeric_drop all 1⟩
  have sign : AllNumeric ['e', if power < 0 then '-' else '+'] := by
    unfold AllNumeric
    split <;> decide
  simp only [scientific, allNumeric_append]
  exact ⟨⟨⟨⟨allNumeric_take all 1, fraction⟩, sign⟩, allNumeric_zeros _⟩,
    allNumeric_of_allDigits (allDigits_toDigits _)⟩

theorem allNumeric_finiteText (negative : Bool) (mantissa exponent : Nat) :
    AllNumeric (finiteText negative mantissa exponent).toList := by
  have magnitude : AllNumeric
      (if mantissa = 0 then ['0', '.', '0'] else decimalText (shortest mantissa exponent)) := by
    split
    · unfold AllNumeric
      decide
    · have digits := allNumeric_of_allDigits (allDigits_toDigits (shortest mantissa exponent).digits)
      simp only [decimalText]
      split
      · exact allNumeric_positional digits _
      · exact allNumeric_scientific digits _
  simp only [finiteText, String.toList_ofList]
  cases negative with
  | false => exact magnitude
  | true => exact allNumeric_cons.mpr ⟨by decide, magnitude⟩

end LoadScript.Double
