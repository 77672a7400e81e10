import LoadScript.Curl.Form
import LoadScript.Curl.UrlEncoded
import LoadScript.Proofs.Text.Cutting

/-!
The fields of a form are read back from its body, as long as no field names a file.
-/

namespace LoadScript.Curl

open Text

variable {character : Char}

/-! Percent signs. -/

theorem hexValue?_upperHexDigit {value : Nat} (bound : value < 16) :
    hexValue? (upperHexDigit value) = some value := by
  have all : ∀ digit : Fin 16, hexValue? (upperHexDigit digit.val) = some digit.val := by decide
  exact all ⟨value, bound⟩

theorem percentDecode?_percentByte (byte : UInt8) (rest : List Char) :
    percentDecode? (percentByte byte ++ rest) = (percentDecode? rest).map (byte :: ·) := by
  have bound := byte.toNat_lt
  have whole : UInt8.ofNat (16 * (byte.toNat / 16) + byte.toNat % 16) = byte := by
    rw [Nat.div_add_mod, UInt8.ofNat_toNat]
  rw [percentByte, List.cons_append, List.cons_append, List.cons_append, List.nil_append, percentDecode?,
    hexValue?_upperHexDigit (by omega), hexValue?_upperHexDigit (by omega)]
  cases percentDecode? rest with
  | none => rfl
  | some bytes => exact congrArg (fun first => some (first :: bytes)) whole

theorem percentDecode?_percentBytes (bytes : List UInt8) (rest : List Char) :
    percentDecode? (bytes.flatMap percentByte ++ rest) = (percentDecode? rest).map (bytes ++ ·) := by
  induction bytes with
  | nil => simp
  | cons byte bytes ih =>
      rw [List.flatMap_cons, List.append_assoc, percentDecode?_percentByte, ih, Option.map_map]
      rfl

theorem percentDecode?_plain (plain : character ≠ '%') (rest : List Char) :
    percentDecode? (character :: rest) =
      (percentDecode? rest).map (String.utf8EncodeChar character ++ ·) := by
  rw [percentDecode?]
  · cases percentDecode? rest <;> simp [plain]
  · exact fun _ _ _ same => absurd same plain

theorem ne_percent_of_isUnreserved (unreserved : isUnreserved character = true) : character ≠ '%' := by
  rintro rfl
  exact absurd unreserved (by decide)

theorem percentDecode?_encodeChar (character : Char) (rest : List Char) :
    percentDecode? (encodeChar character ++ rest) =
      (percentDecode? rest).map (String.utf8EncodeChar character ++ ·) := by
  rw [encodeChar]
  split
  · next unreserved => exact percentDecode?_plain (ne_percent_of_isUnreserved unreserved) rest
  · exact percentDecode?_percentBytes _ rest

theorem percentDecode?_encodeChars (text : List Char) :
    percentDecode? (text.flatMap encodeChar) = some (text.flatMap String.utf8EncodeChar) := by
  induction text with
  | nil => rfl
  | cons character text ih =>
      rw [List.flatMap_cons, percentDecode?_encodeChar, ih]
      rfl

theorem decodeComponent?_encodeComponent (value : String) :
    decodeComponent? (encodeComponent value).toList = some value := by
  have bytes : (value.toList.flatMap String.utf8EncodeChar).toByteArray = value.toList.utf8Encode := rfl
  rw [decodeComponent?, encodeComponent, String.toList_ofList, percentDecode?_encodeChars]
  simp only [Option.bind_eq_bind, Option.bind_some, bytes, List.utf8Decode?_utf8Encode]
  simp

/-! The characters of a body. -/

def isEncoded (character : Char) : Bool := isUnreserved character || character = '%'

theorem isEncoded_upperHexDigit {value : Nat} (bound : value < 16) :
    isEncoded (upperHexDigit value) = true := by
  have all : ∀ digit : Fin 16, isEncoded (upperHexDigit digit.val) = true := by decide
  exact all ⟨value, bound⟩

theorem isEncoded_percentByte (byte : UInt8) :
    ∀ character ∈ percentByte byte, isEncoded character = true := by
  have bound := byte.toNat_lt
  simp only [percentByte, List.forall_mem_cons]
  refine ⟨by decide, isEncoded_upperHexDigit (by omega), isEncoded_upperHexDigit (by omega), ?_⟩
  simp

theorem isEncoded_encodeComponent (value : String) :
    ∀ character ∈ (encodeComponent value).toList, isEncoded character = true := by
  intro character found
  rw [encodeComponent, String.toList_ofList] at found
  obtain ⟨source, -, written⟩ := List.mem_flatMap.mp found
  rw [encodeChar] at written
  split at written
  · next unreserved =>
      rw [List.mem_singleton] at written
      simp [isEncoded, written, unreserved]
  · obtain ⟨byte, -, digit⟩ := List.mem_flatMap.mp written
    exact isEncoded_percentByte byte character digit

theorem toNat_lt_of_isAlphanum (alphanumeric : character.isAlphanum = true) : character.toNat < 128 := by
  delta Char.isAlphanum Char.isAlpha Char.isUpper Char.isLower Char.isDigit at alphanumeric
  simp only [Bool.or_eq_true, Bool.and_eq_true, decide_eq_true_eq, ge_iff_le,
    UInt32.le_iff_toNat_le] at alphanumeric
  rcases alphanumeric with (⟨-, most⟩ | ⟨-, most⟩) | ⟨-, most⟩
  · change character.toNat ≤ 90 at most
    omega
  · change character.toNat ≤ 122 at most
    omega
  · change character.toNat ≤ 57 at most
    omega

theorem toNat_lt_of_isEncoded (encoded : isEncoded character = true) : character.toNat < 128 := by
  have marks : ∀ mark ∈ "_.-~!*'()%".toList, mark.toNat < 128 := by decide
  simp only [isEncoded, isUnreserved, Bool.or_eq_true, List.contains_iff_mem, decide_eq_true_eq] at encoded
  rcases encoded with (alphanumeric | mark) | rfl
  · exact toNat_lt_of_isAlphanum alphanumeric
  · exact marks character (List.mem_append_left _ mark : character ∈ "_.-~!*'()".toList ++ ['%'])
  · exact marks _ (by decide)

theorem notMem_encodeComponent {mark : Char} (divides : isEncoded mark = false) (value : String) :
    mark ∉ (encodeComponent value).toList := by
  intro found
  have encoded := isEncoded_encodeComponent value mark found
  rw [divides] at encoded
  cases encoded

/-! Fields. -/

theorem encodedField_toList (field : FormField) :
    (encodedField field).toList =
      (encodeComponent field.key).toList ++ '=' :: (encodeComponent field.value).toList := by
  simp [encodedField]

theorem decodeField?_encodedField (field : FormField) :
    decodeField? (encodedField field).toList = some (field.key, field.value) := by
  have noEquals : '=' ∉ (encodeComponent field.key).toList := notMem_encodeComponent (by decide) _
  rw [decodeField?, encodedField_toList, cut?_mark noEquals]
  simp only [Option.bind_eq_bind, Option.bind_some, decodeComponent?_encodeComponent]
  rfl

theorem mem_encodedField {field : FormField} (found : character ∈ (encodedField field).toList) :
    isEncoded character = true ∨ character = '=' := by
  rw [encodedField_toList, List.mem_append, List.mem_cons] at found
  rcases found with inKey | equals | inValue
  · exact .inl (isEncoded_encodeComponent _ character inKey)
  · exact .inr equals
  · exact .inl (isEncoded_encodeComponent _ character inValue)

theorem notMem_encodedField (field : FormField) : '&' ∉ (encodedField field).toList := by
  intro found
  exact absurd (mem_encodedField found) (by decide)

/-! Bodies. -/

theorem formBody_toList {form : Form} (plain : form.hasFile = false) :
    (formBody form).toList =
      ['&'].intercalate (form.fields.map fun field => (encodedField field).toList) := by
  rw [formBody, plain, if_neg Bool.false_ne_true, String.toList_intercalate, List.map_map]
  rfl

theorem mapM_decodeField? (fields : List FormField) :
    (fields.map fun field => (encodedField field).toList).mapM decodeField? =
      some (fields.map fun field => (field.key, field.value)) := by
  induction fields with
  | nil => rfl
  | cons field fields ih =>
      rw [List.map_cons, List.mapM_cons, decodeField?_encodedField, ih]
      rfl

theorem decodeForm?_of_plain {form : Form} (plain : form.hasFile = false) (nonempty : form.fields ≠ []) :
    decodeForm? (formBody form) = some form.pairs := by
  have whole : ∀ piece ∈ form.fields.map fun field => (encodedField field).toList, '&' ∉ piece := by
    intro piece found
    obtain ⟨field, -, rfl⟩ := List.mem_map.mp found
    exact notMem_encodedField field
  rw [decodeForm?, formBody_toList plain, splitAt_intercalate (by simpa using nonempty) whole]
  exact mapM_decodeField? form.fields

theorem formBody_ascii {form : Form} (plain : form.hasFile = false) :
    ∀ character ∈ (formBody form).toList, character.toNat < 128 := by
  intro character found
  rw [formBody_toList plain] at found
  rcases mem_intercalate found with rfl | ⟨piece, member, inside⟩
  · decide
  · obtain ⟨field, -, rfl⟩ := List.mem_map.mp member
    rcases mem_encodedField inside with encoded | rfl
    · exact toNat_lt_of_isEncoded encoded
    · decide

/-- The body of a form without a file has the keys and values of its fields, in their order, between its
ampersands and equals signs and behind its percent signs. It is made of seven-bit characters, and forms with
other keys or values have other bodies. -/
theorem decodeForm?_formBody (form : Form) (plain : form.hasFile = false) (nonempty : form.fields ≠ []) :
    decodeForm? (formBody form) = some form.pairs ∧
      (∀ character ∈ (formBody form).toList, character.toNat < 128) ∧
      ∀ other : Form, other.hasFile = false → other.fields ≠ [] → formBody other = formBody form →
        other.pairs = form.pairs := by
  have decoded := decodeForm?_of_plain plain nonempty
  refine ⟨decoded, formBody_ascii plain, ?_⟩
  intro other otherPlain otherNonempty same
  have otherDecoded := decodeForm?_of_plain otherPlain otherNonempty
  rw [same, decoded] at otherDecoded
  exact (Option.some.inj otherDecoded).symm

def contactForm : Form := {
  fields := [
    { key := "a&b=c", value := "100% sure" },
    { key := "", value := "naïve €😀+~" },
    { key := "a&b=c", value := "" }] }

theorem decodeForm?_contactForm :
    contactForm.hasFile = false ∧ contactForm.fields ≠ [] ∧
      formBody contactForm =
        "a%26b%3Dc=100%25%20sure&=na%C3%AFve%20%E2%82%AC%F0%9F%98%80%2B~&a%26b%3Dc=" ∧
      decodeForm? (formBody contactForm) = some contactForm.pairs := by
  have nonempty : contactForm.fields ≠ [] := by decide
  exact ⟨rfl, nonempty, by decide, (decodeForm?_formBody contactForm rfl nonempty).1⟩

end LoadScript.Curl
