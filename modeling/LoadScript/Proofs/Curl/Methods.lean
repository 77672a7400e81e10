import LoadScript.Curl.Import
import LoadScript.Proofs.Curl.Arguments
import LoadScript.Proofs.Text.Words

/-!
The names of methods behind their flag. What follows a name matters only up to the first character that is
no part of a word.
-/

namespace LoadScript.Curl

open Text

variable {character : Char}

theorem isWordCharacter_of_isBoundary (boundary : isBoundary character = true) :
    isWordCharacter character = false := by
  rw [isBoundary, Bool.or_eq_true] at boundary
  rcases boundary with blank | quote
  · exact isWordCharacter_of_isBlank blank
  · simp only [isQuote, Bool.or_eq_true, decide_eq_true_eq] at quote
    rcases quote with rfl | rfl <;> decide

def wordMethod? (text : List Char) (method : Method) : Option (Method × List Char) :=
  match dropWord? (method.name.toList.map Char.toLower) text with
  | none => none
  | some rest => if (rest.head?.map isWordCharacter).getD false then none else some (method, rest)

/-! A name that is found is in upper case the name of the method. -/

theorem upperChar_of_sameLetter {letter : Char} (small : 97 ≤ letter.toNat ∧ letter.toNat ≤ 122)
    (same : sameLetter letter character = true) : upperChar character = [letter.toUpper] := by
  have smalls : ∀ offset : Fin 26,
      upperChar (Char.ofNat (97 + offset)) = [(Char.ofNat (97 + offset)).toUpper] := by
    decide +kernel
  have capitals : ∀ offset : Fin 26,
      upperChar (Char.ofNat (65 + offset)) = [(Char.ofNat (65 + offset)).toLower.toUpper] := by
    decide +kernel
  simp only [sameLetter, Bool.or_eq_true, Bool.and_eq_true, decide_eq_true_eq] at same
  rcases same with lowered | ⟨rfl, rfl⟩
  · by_cases capital : 65 ≤ character.toNat ∧ character.toNat ≤ 90
    · have known := capitals ⟨character.toNat - 65, by omega⟩
      rwa [Nat.add_sub_cancel' capital.1, Char.ofNat_toNat, lowered] at known
    · have kept := toLower_of_noCapital capital
      have known := smalls ⟨letter.toNat - 97, by omega⟩
      rw [Nat.add_sub_cancel' small.1, Char.ofNat_toNat] at known
      rw [← kept, lowered]
      exact known
  · decide +kernel

theorem upper_of_dropWord? {letters text rest : List Char}
    (small : ∀ letter ∈ letters, 97 ≤ letter.toNat ∧ letter.toNat ≤ 122)
    (dropped : dropWord? letters text = some rest) :
    (text.take letters.length).flatMap upperChar = letters.map Char.toUpper := by
  fun_induction dropWord? letters text with
  | case1 text => simp
  | case2 => cases dropped
  | case3 letter letters first text same ih =>
      rw [List.forall_mem_cons] at small
      rw [List.length_cons, List.take_succ_cons, List.flatMap_cons, ih small.2 dropped,
        upperChar_of_sameLetter small.1 same]
      rfl
  | case4 => cases dropped

theorem upper_of_wordMethod? {text rest : List Char} {method found : Method}
    (read : wordMethod? text method = some (found, rest)) :
    found = method ∧ upper (String.ofList (text.take method.name.length)) = method.name := by
  rw [wordMethod?] at read
  split at read
  · cases read
  · next behind dropped =>
      split at read
      · cases read
      · cases read
        have small : ∀ letter ∈ method.name.toList.map Char.toLower,
            97 ≤ letter.toNat ∧ letter.toNat ≤ 122 := by
          cases method <;> decide
        have raised : (method.name.toList.map Char.toLower).map Char.toUpper = method.name.toList := by
          cases method <;> decide
        have spelled := upper_of_dropWord? small dropped
        rw [raised, List.length_map, String.length_toList] at spelled
        refine ⟨rfl, ?_⟩
        rw [upper, String.toList_ofList, spelled, String.ofList_toList]

theorem ofName?_name (method : Method) : Method.ofName? method.name = some method := by
  cases method <;> decide

theorem writtenName?_eq (text : List Char) (method : Method) :
    writtenName? text method =
      (wordMethod? text method).map fun found => (text.take method.name.length, found.2) := by
  rw [writtenName?, wordMethod?]
  cases dropWord? (method.name.toList.map Char.toLower) text with
  | none => rfl
  | some rest =>
      simp only []
      split <;> rfl

theorem ofName?_of_methodText? {text written rest : List Char}
    (read : methodText? text = some (written, rest)) :
    ∃ method, Method.ofName? (upper (String.ofList written)) = some method := by
  obtain ⟨before, method, after, -, told, -⟩ := List.findSome?_eq_some_iff.mp read
  rw [writtenName?_eq, Option.map_eq_some_iff] at told
  obtain ⟨⟨found, behind⟩, matched, same⟩ := told
  cases same
  rw [(upper_of_wordMethod? matched).2]
  exact ⟨method, ofName?_name method⟩

/-- A method is found where its name is, whatever other methods are looked for. -/
theorem methodName?_eq (text : List Char) :
    methodName? text = Method.all.findSome? (wordMethod? (withoutMark text)) := by
  have each (methods : List Method) :
      ((methods.findSome? (writtenName? (withoutMark text))).bind fun read =>
          (Method.ofName? (upper (String.ofList read.1))).bind fun method => some (method, read.2)) =
        methods.findSome? (wordMethod? (withoutMark text)) := by
    induction methods with
    | nil => rfl
    | cons method methods ih =>
        rw [List.findSome?_cons, List.findSome?_cons, writtenName?_eq]
        cases read : wordMethod? (withoutMark text) method with
        | none => exact ih
        | some found =>
            obtain ⟨rfl, spelled⟩ := upper_of_wordMethod? read
            simp [spelled, ofName?_name]
  exact each Method.all

theorem wordMethod?_append (boundary : isBoundary character = true) (text rest : List Char)
    (method : Method) :
    wordMethod? (text ++ character :: rest) method =
      (wordMethod? text method).map fun found => (found.1, found.2 ++ character :: rest) := by
  have letters : ∀ letter ∈ method.name.toList.map Char.toLower,
      sameLetter letter character = false := by
    have plain : ∀ letter ∈ method.name.toList.map Char.toLower,
        45 ≤ letter.toNat ∧ letter.toNat ≤ 122 := by
      cases method <;> decide
    exact fun letter found => sameLetter_of_isBoundary (plain letter found) boundary
  rw [wordMethod?, wordMethod?, dropWord?_append text rest letters]
  cases dropWord? (method.name.toList.map Char.toLower) text with
  | none => rfl
  | some behind =>
      cases behind with
      | nil => simp [isWordCharacter_of_isBoundary boundary]
      | cons first behind =>
          by_cases word : isWordCharacter first = true <;> simp [word]

theorem methodName?_append (boundary : isBoundary character = true) {text : List Char}
    (apart : text ≠ [] ∨ isQuote character = false) (rest : List Char) :
    methodName? (text ++ character :: rest) =
      (methodName? text).map fun found => (found.1, found.2 ++ character :: rest) := by
  have same : withoutMark (text ++ character :: rest) = withoutMark text ++ character :: rest := by
    cases text with
    | nil =>
        have plain := apart.resolve_left fun nonempty => nonempty rfl
        simp [withoutMark, plain]
    | cons first text =>
        simp only [List.cons_append, withoutMark]
        split <;> rfl
  rw [methodName?_eq, methodName?_eq, same, List.map_findSome?]
  congr 1
  funext method
  exact wordMethod?_append boundary _ rest method

theorem methodName?_self (method : Method) :
    methodName? method.name.toList = some (method, []) := by
  cases method <;> decide

theorem methodName?_name (method : Method) (rest : List Char) :
    methodName? (method.name.toList ++ ' ' :: rest) = some (method, ' ' :: rest) := by
  rw [methodName?_append (by decide) (.inr (by decide)), methodName?_self]
  rfl

end LoadScript.Curl
