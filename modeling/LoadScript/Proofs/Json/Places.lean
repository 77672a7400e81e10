import LoadScript.Json.Place
import LoadScript.Proofs.Json.Reading

/-!
Reading the parts of a text keeps track of its strings and brackets.
-/

namespace LoadScript.Json

variable {dialect : Dialect} {depth : Nat} {start middle last : Place} {text part rest : List Char}

namespace Leads

theorem refl (start : Place) (text : List Char) : Leads start text start text := ⟨[], rfl, rfl⟩

theorem step (start : Place) (character : Char) (rest : List Char) :
    Leads start (character :: rest) (start.after character) rest :=
  ⟨[character], rfl, rfl⟩

theorem trans (first : Leads start text middle part) (second : Leads middle part last rest) :
    Leads start text last rest := by
  obtain ⟨before, rfl, rfl⟩ := first
  obtain ⟨after, rfl, rfl⟩ := second
  exact ⟨before ++ after, (List.append_assoc ..).symm, List.foldl_append⟩

end Leads

def isUnmarked (character : Char) : Bool :=
  !(character = '"' || opensNesting character || closesNesting character)

theorem after_unmarked {character : Char} (unmarked : isUnmarked character = true) :
    Place.after (.outside depth) character = .outside depth := by
  simp only [isUnmarked, Bool.not_eq_true', Bool.or_eq_false_iff, decide_eq_false_iff_not] at unmarked
  simp [Place.after, unmarked]

theorem leads_unmarked {passed : List Char} (all : passed.all isUnmarked = true) (rest : List Char) :
    Leads (.outside depth) (passed ++ rest) (.outside depth) rest := by
  induction passed with
  | nil => exact .refl _ _
  | cons character passed ih =>
      rw [List.all_cons, Bool.and_eq_true] at all
      have first := Leads.step (.outside depth) character (passed ++ rest)
      rw [after_unmarked all.1] at first
      exact first.trans (ih all.2)

theorem isUnmarked_of_isDigit {digit : Char} (isDigit : digit.isDigit = true) :
    isUnmarked digit = true := by
  have apart (other : Char) (unlike : other.isDigit = false) : digit ≠ other := by
    rintro rfl
    simp [unlike] at isDigit
  simp [isUnmarked, opensNesting, closesNesting, apart '"', apart '[', apart '{', apart ']', apart '}']

theorem isUnmarked_of_isGap {gap : Char} (isGap : isGap gap = true) : isUnmarked gap = true := by
  simp only [Json.isGap, Bool.or_eq_true, decide_eq_true_eq] at isGap
  rcases isGap with ((rfl | rfl) | rfl) | rfl <;> decide

theorem leads_dropWhile {passes : Char → Bool}
    (unmarked : ∀ {character}, passes character = true → isUnmarked character = true)
    (text : List Char) : Leads (.outside depth) text (.outside depth) (text.dropWhile passes) := by
  have all : (text.takeWhile passes).all isUnmarked = true := by
    rw [List.all_eq_true]
    intro character found
    exact unmarked (List.all_eq_true.mp List.all_takeWhile character found)
  have split : Leads (.outside depth) (text.takeWhile passes ++ text.dropWhile passes)
      (.outside depth) (text.dropWhile passes) := leads_unmarked all _
  rwa [List.takeWhile_append_dropWhile] at split

theorem skipGaps_leads (text : List Char) :
    Leads (.outside depth) text (.outside depth) (skipGaps text) :=
  leads_dropWhile isUnmarked_of_isGap text

theorem bracket_leads {bracket : Char} (opens : opensNesting bracket = true) (rest : List Char) :
    Leads (.outside depth) (bracket :: rest) (.outside (depth + 1)) (skipGaps rest) := by
  simp only [opensNesting, Bool.or_eq_true, decide_eq_true_eq] at opens
  rcases opens with rfl | rfl
  · exact (Leads.step _ '[' rest).trans (skipGaps_leads rest)
  · exact (Leads.step _ '{' rest).trans (skipGaps_leads rest)

theorem comma_leads (rest : List Char) :
    Leads (.outside depth) (',' :: rest) (.outside depth) (skipGaps rest) :=
  (Leads.step _ ',' rest).trans (skipGaps_leads rest)

theorem after_hex {digit : Char} {value : Nat} (hex : Text.hexValue? digit = some value) :
    Place.after (.quoted depth) digit = .quoted depth := by
  have notQuote : digit ≠ '"' := by
    rintro rfl
    cases hex
  have notBackslash : digit ≠ '\\' := by
    rintro rfl
    cases hex
  rw [Place.after, if_neg notQuote, if_neg notBackslash]

theorem codeUnit?_leads {digits : List Char} {unit : Nat} (read : codeUnit? digits = some unit) :
    Leads (.quoted depth) digits (.quoted depth) (digits.drop 4) := by
  obtain ⟨first, second, third, fourth, next, rest, rfl, hex⟩ := exists_digits_of_codeUnit? read
  have inside : ∀ digit ∈ [first, second, third, fourth],
      Place.after (.quoted depth) digit = .quoted depth := fun digit member =>
    after_hex (hex digit member).choose_spec
  refine ⟨[first, second, third, fourth], rfl, ?_⟩
  simp only [List.forall_mem_cons] at inside
  simp only [List.foldl_cons, List.foldl_nil, inside]

theorem backslash_leads (character : Char) (rest : List Char) :
    Leads (.quoted depth) ('\\' :: character :: rest) (.quoted depth) rest :=
  ⟨['\\', character], rfl, rfl⟩

theorem EscapeRead.leads {decoded : Char} {width : Nat} (read : EscapeRead dialect text decoded width) :
    ∃ more, width = more + 1 ∧ Leads (.quoted depth) ('\\' :: text) (.quoted depth) (text.drop more) := by
  have unit {digits : List Char} {code : Nat} (unitRead : codeUnit? digits = some code) :
      Leads (.quoted depth) ('\\' :: 'u' :: digits) (.quoted depth) (digits.drop 4) :=
    (backslash_leads 'u' digits).trans (codeUnit?_leads unitRead)
  cases read with
  | letter stands => exact ⟨1, rfl, backslash_leads _ _⟩
  | @pair digits more high low highRead isHigh follows lowRead isLow =>
      -- A pair is two escapes of six characters each.
      have same : ('u' :: digits).drop 11 = more.drop 4 := by
        rw [List.drop_succ_cons, ← List.drop_drop (i := 6) (j := 4), follows]
        rfl
      have first := unit highRead
      rw [follows] at first
      refine ⟨11, rfl, ?_⟩
      rw [same]
      exact first.trans (unit lowRead)
  | unit unitRead => exact ⟨5, rfl, unit unitRead⟩

theorem stringBody_leads {opening body : List Char} {skip : Nat}
    (read : stringBody dialect opening skip text = .ok (body, rest)) :
    Leads (.quoted depth) (text.drop skip) (.outside depth) rest := by
  -- An escape leads past the characters that are then skipped.
  induction text generalizing skip body with
  | nil => cases skip <;> cases read
  | cons character text ih =>
      cases skip with
      | succ skip => exact ih read
      | zero =>
          rcases stringBody_cases read with ⟨rfl, rfl, -⟩ | ⟨rfl, decoded, width, others, escaped, read, -⟩ |
            ⟨notQuote, notEscape, -, others, read, -⟩
          · exact .step (.quoted depth) '"' _
          · obtain ⟨more, rfl, leads⟩ := (EscapeRead.of_escape escaped).leads
            exact leads.trans (ih read)
          · have first := Leads.step (.quoted depth) character text
            rw [Place.after, if_neg notQuote, if_neg notEscape] at first
            exact first.trans (ih read)

theorem quote_leads (rest : List Char) : Leads (.outside depth) ('"' :: rest) (.quoted depth) rest :=
  .step (.outside depth) '"' rest

theorem fraction_leads (text : List Char) :
    Leads (.outside depth) text (.outside depth) (fraction text).2 := by
  rw [fraction.eq_def]
  split
  · next digit rest =>
      split
      · next isDigit =>
          have point : Leads (.outside depth) ('.' :: digit :: rest) (.outside depth) rest := by
            refine @leads_unmarked depth ['.', digit] ?_ rest
            rw [List.all_cons, List.all_cons, isUnmarked_of_isDigit isDigit]
            rfl
          exact point.trans (leads_dropWhile isUnmarked_of_isDigit rest)
      · exact .refl _ _
  · exact .refl _ _

theorem power_leads (text : List Char) :
    Leads (.outside depth) text (.outside depth) (power text).2 := by
  rw [power.eq_def]
  split
  · next mark rest =>
      split
      · next isMark =>
          have marked : Leads (.outside depth) (mark :: rest) (.outside depth) rest := by
            simp only [Bool.or_eq_true, decide_eq_true_eq] at isMark
            rcases isMark with rfl | rfl
            · exact .step (.outside depth) 'e' rest
            · exact .step (.outside depth) 'E' rest
          split
          next sign tail same =>
            have signed : Leads (.outside depth) rest (.outside depth) tail := by
              split at same
              · cases same
                exact .step (.outside depth) '+' tail
              · cases same
                exact .step (.outside depth) '-' tail
              · cases same
                exact .refl _ _
            simp only []
            split
            · exact .refl _ _
            · exact (marked.trans signed).trans (leads_dropWhile isUnmarked_of_isDigit tail)
      · exact .refl _ _
  · exact .refl _ _

theorem wholePart?_split {digits : List Char} (read : wholePart? text = some (digits, rest)) :
    text = digits ++ rest := by
  rw [wholePart?.eq_def] at read
  split at read
  · cases read
    rfl
  · split at read
    · cases read
      rw [List.cons_append, List.takeWhile_append_dropWhile]
    · cases read
  · cases read

theorem splitSign_leads (text : List Char) :
    Leads (.outside depth) text (.outside depth) (splitSign text).2 := by
  rw [splitSign.eq_def]
  split
  · exact .step (.outside depth) '-' _
  · exact .refl _ _

end LoadScript.Json
