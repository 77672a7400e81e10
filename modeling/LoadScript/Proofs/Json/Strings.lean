import LoadScript.Json.Printer
import LoadScript.Json.Scanner

/-!
Strings that are written as JSON text are read again. Each character is written in a form of its own, from a
short escape to a pair of code units.
-/

namespace LoadScript.Json

variable {dialect : Dialect}

theorem hexValue?_hexDigit {value : Nat} (bound : value < 16) :
    Text.hexValue? (Text.hexDigit value) = some value := by
  have all : ∀ digit : Fin 16, Text.hexValue? (Text.hexDigit digit.val) = some digit.val := by
    decide
  exact all ⟨value, bound⟩

theorem codeUnit?_hexDigits {unit : Nat} (bound : unit < 0x10000) (next : Char) (rest : List Char) :
    codeUnit? (Text.hexDigits 4 unit ++ next :: rest) = some unit := by
  have digit (value : Nat) : Text.hexValue? (Text.hexDigit (value % 16)) = some (value % 16) :=
    hexValue?_hexDigit (Nat.mod_lt value (by decide))
  simp only [Text.hexDigits, List.nil_append, List.cons_append, codeUnit?, digit,
    Option.bind_eq_bind, Option.bind_some, Option.pure_def, Option.some.injEq]
  omega

theorem hexDigits_length (width value : Nat) : (Text.hexDigits width value).length = width := by
  induction width generalizing value with
  | zero => rfl
  | succ width ih => rw [Text.hexDigits, List.length_append, ih]; rfl

theorem stringBody_skip (dialect : Dialect) (opening skipped rest : List Char) :
    stringBody dialect opening skipped.length (skipped ++ rest) = stringBody dialect opening 0 rest := by
  induction skipped with
  | nil => rfl
  | cons character skipped ih => exact ih

theorem stringBody_plain {opening rest : List Char} {character : Char} {body after : List Char}
    (notQuote : character ≠ '"') (notBackslash : character ≠ '\\')
    (visible : ¬character.toNat < 0x20) (read : stringBody dialect opening 0 rest = .ok (body, after)) :
    stringBody dialect opening 0 (character :: rest) = .ok (character :: body, after) := by
  rw [stringBody, if_neg notQuote, if_neg notBackslash, if_neg visible, read]
  rfl

theorem stringBody_escape {opening skipped rest : List Char} {character : Char}
    {body after : List Char}
    (decoded : escape dialect opening ('\\' :: (skipped ++ rest)) = .ok (character, skipped.length + 1))
    (read : stringBody dialect opening 0 rest = .ok (body, after)) :
    stringBody dialect opening 0 ('\\' :: (skipped ++ rest)) = .ok (character :: body, after) := by
  rw [← stringBody_skip dialect opening skipped rest] at read
  rw [stringBody, if_neg (by decide), if_pos rfl, decoded]
  simp only [bind, Except.bind, Nat.add_sub_cancel, read]
  rfl

theorem ne_nil_of_stringBody {opening rest body after : List Char}
    (read : stringBody dialect opening 0 rest = .ok (body, after)) : rest ≠ [] := by
  rintro rfl
  cases read

theorem toNat_valid (character : Char) :
    character.toNat < 0xD800 ∨ 0xDFFF < character.toNat ∧ character.toNat < 0x110000 :=
  character.valid

theorem isHighSurrogate_toNat (character : Char) : isHighSurrogate character.toNat = false := by
  have valid := toNat_valid character
  simp only [isHighSurrogate, Bool.and_eq_false_iff, decide_eq_false_iff_not]
  omega

theorem unitChar_toNat (dialect : Dialect) (character : Char) : unitChar dialect character.toNat = character := by
  have valid := toNat_valid character
  have notLow : isLowSurrogate character.toNat = false := by
    simp only [isLowSurrogate, Bool.and_eq_false_iff, decide_eq_false_iff_not]
    omega
  rw [unitChar, isHighSurrogate_toNat, notLow, Bool.or_self, if_neg Bool.false_ne_true,
    Char.ofNat_toNat]

theorem drop_hexDigits (unit : Nat) (rest : List Char) :
    (Text.hexDigits 4 unit ++ rest).drop 4 = rest :=
  List.drop_left' (hexDigits_length 4 unit)

theorem exists_digits_of_codeUnit? {text : List Char} {unit : Nat} (read : codeUnit? text = some unit) :
    ∃ first second third fourth next rest,
      text = first :: second :: third :: fourth :: next :: rest ∧
        ∀ digit ∈ [first, second, third, fourth], ∃ value, Text.hexValue? digit = some value := by
  rw [codeUnit?.eq_def] at read
  split at read
  · next first second third fourth next rest =>
      simp only [Option.bind_eq_bind, Option.bind_eq_some_iff] at read
      obtain ⟨_, firstHex, _, secondHex, _, thirdHex, _, fourthHex, -⟩ := read
      exact ⟨first, second, third, fourth, next, rest, rfl, by simp [firstHex, secondHex, thirdHex, fourthHex]⟩
  · cases read

theorem lt_length_of_codeUnit? {digits : List Char} {unit : Nat} (read : codeUnit? digits = some unit) :
    4 < digits.length := by
  obtain ⟨first, second, third, fourth, next, rest, rfl, -⟩ := exists_digits_of_codeUnit? read
  simp

/-- How an escape is read, given by the text behind its backslash. A code unit stands alone unless it is the first
half of a pair and an escape of the second half follows. -/
inductive EscapeRead (dialect : Dialect) : (text : List Char) → Char → (width : Nat) → Prop where
  | letter {letter character : Char} {rest : List Char} (stands : shortEscape? letter = some character) :
      EscapeRead dialect (letter :: rest) character 2
  | pair {digits more : List Char} {high low : Nat} (highRead : codeUnit? digits = some high)
      (isHigh : isHighSurrogate high = true) (follows : digits.drop 4 = '\\' :: 'u' :: more)
      (lowRead : codeUnit? more = some low) (isLow : isLowSurrogate low = true) :
      EscapeRead dialect ('u' :: digits) (pairChar high low) 12
  | unit {digits : List Char} {unit : Nat} (unitRead : codeUnit? digits = some unit)
      (alone : ∀ more, isHighSurrogate unit = true → digits.drop 4 = '\\' :: 'u' :: more → 4 < more.length →
        ∃ other, codeUnit? more = some other ∧ isLowSurrogate other = false) :
      EscapeRead dialect ('u' :: digits) (unitChar dialect unit) 6

theorem EscapeRead.of_escape {opening text : List Char} {decoded : Char} {width : Nat}
    (read : escape dialect opening ('\\' :: text) = .ok (decoded, width)) : EscapeRead dialect text decoded width := by
  rw [escape.eq_def] at read
  split at read
  · next digits same =>
      cases same
      split at read
      · cases read
      · next high highRead =>
          split at read
          · next more follows =>
              have sole {behind : List Char} (again : digits.drop 4 = '\\' :: 'u' :: behind) : behind = more := by
                rw [follows] at again
                cases again
                rfl
              split at read
              · next long =>
                  rw [Bool.and_eq_true] at long
                  split at read
                  · cases read
                  · next low lowRead =>
                      split at read
                      · next isLow =>
                          obtain ⟨rfl, rfl⟩ := Prod.mk.inj (Except.ok.inj read)
                          exact .pair highRead long.1 follows lowRead isLow
                      · next notLow =>
                          cases read
                          refine .unit highRead fun behind _ again _ => ?_
                          rw [sole again]
                          exact ⟨low, lowRead, Bool.eq_false_iff.mpr notLow⟩
              · next short =>
                  cases read
                  refine .unit highRead fun behind isHigh again long => absurd ?_ short
                  rw [sole again] at long
                  rw [isHigh, decide_eq_true long]
                  rfl
          · next other =>
              cases read
              exact .unit highRead fun more _ follows _ => absurd follows (other more)
  · next letter rest notUnit same =>
      cases same
      split at read
      · next stands =>
          cases read
          exact .letter stands
      · cases read
  · cases read

theorem EscapeRead.escape_eq {text : List Char} {decoded : Char} {width : Nat}
    (read : EscapeRead dialect text decoded width) (opening : List Char) :
    escape dialect opening ('\\' :: text) = .ok (decoded, width) := by
  cases read with
  | letter stands =>
      rw [escape, stands]
      rintro _ rfl
      cases stands
  | pair highRead isHigh follows lowRead isLow =>
      have long := lt_length_of_codeUnit? lowRead
      simp only [escape, highRead, follows, isHigh, long, lowRead, isLow, decide_true, Bool.and_self, ↓reduceIte]
  | @unit digits unit unitRead alone =>
      simp only [escape, unitRead]
      split
      · next more follows =>
          split
          · next long =>
              rw [Bool.and_eq_true, decide_eq_true_eq] at long
              obtain ⟨other, otherRead, notLow⟩ := alone more long.1 follows long.2
              simp only [otherRead, notLow, Bool.false_eq_true, ↓reduceIte]
          · rfl
      · rfl

theorem escape_unit (dialect : Dialect) (opening : List Char) {rest : List Char} {unit : Nat} (bound : unit < 0x10000)
    (single : isHighSurrogate unit = false) (nonempty : rest ≠ []) :
    escape dialect opening ('\\' :: ('u' :: Text.hexDigits 4 unit ++ rest)) = .ok (unitChar dialect unit, 6) := by
  obtain ⟨next, more, rfl⟩ := List.exists_cons_of_ne_nil nonempty
  refine (EscapeRead.unit (codeUnit?_hexDigits bound next more) fun _ isHigh => ?_).escape_eq opening
  rw [single] at isHigh
  cases isHigh

theorem escape_pair (dialect : Dialect) (opening : List Char) {rest : List Char} {high low : Nat}
    (highBound : high < 0x10000) (lowBound : low < 0x10000) (isHigh : isHighSurrogate high = true)
    (isLow : isLowSurrogate low = true) (nonempty : rest ≠ []) :
    escape dialect opening ('\\' :: ('u' :: Text.hexDigits 4 high ++ unitEscape low ++ rest)) =
      .ok (pairChar high low, 12) := by
  obtain ⟨next, more, rfl⟩ := List.exists_cons_of_ne_nil nonempty
  have lowRead := codeUnit?_hexDigits lowBound next more
  have highRead := codeUnit?_hexDigits highBound '\\' ('u' :: (Text.hexDigits 4 low ++ next :: more))
  have escape := @EscapeRead.pair dialect _ _ _ _ highRead isHigh (drop_hexDigits high _) lowRead isLow
  have pair := escape.escape_eq opening
  rw [List.cons_append, List.cons_append, List.append_assoc]
  exact pair

theorem pairChar_toNat {character : Char} (beyond : 0x10000 ≤ character.toNat) :
    pairChar (0xD800 + (character.toNat - 0x10000) / 1024)
      (0xDC00 + (character.toNat - 0x10000) % 1024) = character := by
  rw [pairChar, show 0x10000 + (0xD800 + (character.toNat - 0x10000) / 1024 - 0xD800) * 1024 +
    (0xDC00 + (character.toNat - 0x10000) % 1024 - 0xDC00) = character.toNat by omega,
    Char.ofNat_toNat]

theorem stringBody_unitEscape {opening rest : List Char} {character : Char}
    {body after : List Char} (bound : character.toNat < 0x10000)
    (read : stringBody dialect opening 0 rest = .ok (body, after)) :
    stringBody dialect opening 0 (unitEscape character.toNat ++ rest) = .ok (character :: body, after) := by
  have decoded := escape_unit dialect opening bound (isHighSurrogate_toNat character)
    (ne_nil_of_stringBody read)
  rw [unitChar_toNat] at decoded
  refine stringBody_escape ?_ read
  rw [List.length_cons, hexDigits_length]
  exact decoded

theorem stringBody_codeEscape {opening rest : List Char} {character : Char}
    {body after : List Char} (read : stringBody dialect opening 0 rest = .ok (body, after)) :
    stringBody dialect opening 0 (codeEscape character.toNat ++ rest) = .ok (character :: body, after) := by
  rw [codeEscape]
  split
  · next bound => exact stringBody_unitEscape bound read
  · next beyond =>
      have valid := toNat_valid character
      have isHigh : isHighSurrogate (0xD800 + (character.toNat - 0x10000) / 1024) = true := by
        simp only [isHighSurrogate, Bool.and_eq_true, decide_eq_true_eq]
        omega
      have isLow : isLowSurrogate (0xDC00 + (character.toNat - 0x10000) % 1024) = true := by
        simp only [isLowSurrogate, Bool.and_eq_true, decide_eq_true_eq]
        omega
      have decoded := escape_pair dialect opening (by omega) (by omega) isHigh isLow
        (ne_nil_of_stringBody read)
      rw [pairChar_toNat (by omega)] at decoded
      rw [unitEscape, List.cons_append, List.cons_append]
      refine stringBody_escape ?_ read
      simp only [unitEscape, List.length_append, List.length_cons, hexDigits_length]
      exact decoded

theorem quotedChar_cases (keepsUnicode : Bool) (character : Char) :
    (∃ letter, quotedChar keepsUnicode character = ['\\', letter] ∧
      (0x20 ≤ letter.toNat ∧ letter.toNat < 0x80) ∧ shortEscape? letter = some character) ∨
    (quotedChar keepsUnicode character = unitEscape character.toNat ∧ character.toNat < 0x20) ∨
    quotedChar keepsUnicode character = codeEscape character.toNat ∨
    (quotedChar keepsUnicode character = [character] ∧ 0x20 ≤ character.toNat ∧
      (keepsUnicode = true ∨ character.toNat < 0x7F) ∧ character ≠ '"' ∧ character ≠ '\\') := by
  by_cases quote : character = '"'
  · subst quote
    exact .inl ⟨'"', rfl, by decide⟩
  by_cases backslash : character = '\\'
  · subst backslash
    exact .inl ⟨'\\', rfl, by decide⟩
  by_cases feed : character = '\n'
  · subst feed
    exact .inl ⟨'n', rfl, by decide⟩
  by_cases carriage : character = '\r'
  · subst carriage
    exact .inl ⟨'r', rfl, by decide⟩
  by_cases tabulator : character = '\t'
  · subst tabulator
    exact .inl ⟨'t', rfl, by decide⟩
  by_cases back : character.toNat = 8
  · have same : character = Char.ofNat 8 := Char.toNat_inj.mp back
    subst same
    exact .inl ⟨'b', rfl, by decide⟩
  by_cases page : character.toNat = 12
  · have same : character = Char.ofNat 12 := Char.toNat_inj.mp page
    subst same
    exact .inl ⟨'f', rfl, by decide⟩
  rw [quotedChar, if_neg quote, if_neg backslash, if_neg feed, if_neg carriage, if_neg tabulator,
    if_neg back, if_neg page]
  by_cases control : character.toNat < 0x20
  · exact .inr (.inl ⟨if_pos control, control⟩)
  rw [if_neg control]
  split
  · next stays =>
      rw [Bool.or_eq_true, decide_eq_true_eq] at stays
      exact .inr (.inr (.inr ⟨rfl, Nat.le_of_not_lt control, stays, quote, backslash⟩))
  · exact .inr (.inr (.inl rfl))

theorem stringBody_quotedChar (keepsUnicode : Bool) {opening rest : List Char} (character : Char)
    {body after : List Char} (read : stringBody dialect opening 0 rest = .ok (body, after)) :
    stringBody dialect opening 0 (quotedChar keepsUnicode character ++ rest) =
      .ok (character :: body, after) := by
  rcases quotedChar_cases keepsUnicode character with
    ⟨letter, written, -, stands⟩ | ⟨written, control⟩ | written |
    ⟨written, visible, -, notQuote, notBackslash⟩
  · rw [written]
    have decoded : escape dialect opening ('\\' :: ([letter] ++ rest)) = .ok (character, [letter].length + 1) :=
      (EscapeRead.letter stands).escape_eq opening
    exact stringBody_escape decoded read
  · rw [written]
    exact stringBody_unitEscape (by omega) read
  · rw [written]
    exact stringBody_codeEscape read
  · rw [written]
    exact stringBody_plain notQuote notBackslash (Nat.not_lt.mpr visible) read

theorem stringBody_quoted (dialect : Dialect) (keepsUnicode : Bool) (opening value rest : List Char) :
    stringBody dialect opening 0 (value.flatMap (quotedChar keepsUnicode) ++ '"' :: rest) =
      .ok (value, rest) := by
  induction value with
  | nil => rfl
  | cons character value ih =>
      rw [List.flatMap_cons, List.append_assoc]
      exact stringBody_quotedChar keepsUnicode character ih

end LoadScript.Json
