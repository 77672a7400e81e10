import LoadScript.Proofs.Json.Limits
import LoadScript.Proofs.Text.LineEnds

/-!
JSON text reads the same when its line ends are unified: they are gaps wherever they stand.
-/

namespace LoadScript.Json

open Text (unifyLineEndsOf unifyLineEndsOf_cons_plain exists_unifyLineEndsOf_cons
  eq_cons_of_unifyLineEndsOf dropWhile_unifyLineEndsOf takeWhile_unifyLineEndsOf)

variable {dialect : Dialect} {text rest : List Char}

/-! Numbers. -/

theorem splitSign_unified (text : List Char) :
    splitSign (unifyLineEndsOf text) = ((splitSign text).1, unifyLineEndsOf (splitSign text).2) := by
  rw [splitSign.eq_def, splitSign.eq_def]
  split
  · next rest shape =>
      obtain ⟨behind, rfl, rfl⟩ := eq_cons_of_unifyLineEndsOf shape (by decide)
      rfl
  · next unsigned =>
      split
      · next rest => exact absurd (unifyLineEndsOf_cons_plain (by decide) rest) (unsigned _)
      · rfl

theorem takeDigits_unified (text : List Char) :
    (unifyLineEndsOf text).takeWhile Char.isDigit = text.takeWhile Char.isDigit :=
  takeWhile_unifyLineEndsOf rfl rfl text

theorem dropDigits_unified (text : List Char) :
    (unifyLineEndsOf text).dropWhile Char.isDigit = unifyLineEndsOf (text.dropWhile Char.isDigit) :=
  dropWhile_unifyLineEndsOf rfl text

theorem skipGaps_unified (text : List Char) :
    skipGaps (unifyLineEndsOf text) = unifyLineEndsOf (skipGaps text) :=
  dropWhile_unifyLineEndsOf rfl text

theorem wholePart?_unified {digits : List Char} (read : wholePart? text = some (digits, rest)) :
    wholePart? (unifyLineEndsOf text) = some (digits, unifyLineEndsOf rest) := by
  rw [wholePart?.eq_def] at read
  split at read
  · cases read
    rw [unifyLineEndsOf_cons_plain (by decide)]
    rfl
  · next digit rest notZero =>
      split at read
      · next isDigit =>
          cases read
          have plain : digit ≠ '\r' := by
            rintro rfl
            exact absurd isDigit (by decide)
          rw [unifyLineEndsOf_cons_plain plain, wholePart?, if_pos isDigit, takeDigits_unified,
            dropDigits_unified]
          intro zero
          exact notZero zero
      · cases read
  · cases read

theorem fraction_of_head {text : List Char} (other : text.head? ≠ some '.') : fraction text = ([], text) := by
  rw [fraction]
  rintro digit rest rfl
  exact other rfl

theorem fraction_unified (text : List Char) :
    fraction (unifyLineEndsOf text) = ((fraction text).1, unifyLineEndsOf (fraction text).2) := by
  cases text with
  | nil => rfl
  | cons point text =>
      by_cases isPoint : point = '.'
      · subst isPoint
        rw [unifyLineEndsOf_cons_plain (by decide)]
        cases text with
        | nil => rfl
        | cons digit text =>
            by_cases isDigit : digit.isDigit = true
            · have plain : digit ≠ '\r' := by
                rintro rfl
                exact absurd isDigit (by decide)
              rw [unifyLineEndsOf_cons_plain plain, fraction, fraction, if_pos isDigit, if_pos isDigit,
                takeDigits_unified, dropDigits_unified]
            · obtain ⟨behind, shape⟩ := exists_unifyLineEndsOf_cons digit text
              have notDigit : ¬ (if digit = '\r' then '\n' else digit).isDigit = true := by
                split
                · decide
                · exact isDigit
              have point : unifyLineEndsOf ('.' :: digit :: text) = '.' :: unifyLineEndsOf (digit :: text) :=
                unifyLineEndsOf_cons_plain (by decide) _
              have whole : fraction ('.' :: digit :: text) = ([], '.' :: digit :: text) := if_neg isDigit
              rw [whole, point, shape]
              exact if_neg notDigit
      · obtain ⟨behind, shape⟩ := exists_unifyLineEndsOf_cons point text
        have other : (unifyLineEndsOf (point :: text)).head? ≠ some '.' := by
          rw [shape, List.head?_cons]
          split
          · decide
          · exact fun same => isPoint (Option.some.inj same)
        rw [fraction_of_head other, fraction_of_head (by simpa using isPoint)]

def exponentSign : List Char → List Char × List Char
  | '+' :: rest => (['+'], rest)
  | '-' :: rest => (['-'], rest)
  | rest => ([], rest)

theorem exponentSign_unified (text : List Char) :
    exponentSign (unifyLineEndsOf text) =
      ((exponentSign text).1, unifyLineEndsOf (exponentSign text).2) := by
  rw [exponentSign.eq_def, exponentSign.eq_def]
  split
  · next rest shape =>
      obtain ⟨behind, rfl, rfl⟩ := eq_cons_of_unifyLineEndsOf shape (by decide)
      rfl
  · next rest shape =>
      obtain ⟨behind, rfl, rfl⟩ := eq_cons_of_unifyLineEndsOf shape (by decide)
      rfl
  · next notPlus notMinus =>
      split
      · next rest => exact absurd (unifyLineEndsOf_cons_plain (by decide) rest) (notPlus _)
      · next rest => exact absurd (unifyLineEndsOf_cons_plain (by decide) rest) (notMinus _)
      · rfl

theorem power_cons (mark : Char) (rest : List Char) :
    power (mark :: rest) =
      if mark = 'e' || mark = 'E' then
        let digits := (exponentSign rest).2.takeWhile Char.isDigit
        if digits.isEmpty then ([], mark :: rest)
        else (mark :: (exponentSign rest).1 ++ digits, (exponentSign rest).2.dropWhile Char.isDigit)
      else ([], mark :: rest) := rfl

theorem power_unified (text : List Char) :
    power (unifyLineEndsOf text) = ((power text).1, unifyLineEndsOf (power text).2) := by
  cases text with
  | nil => rfl
  | cons mark text =>
      by_cases isMark : (mark = 'e' || mark = 'E') = true
      · have plain : mark ≠ '\r' := by
          rintro rfl
          exact absurd isMark (by decide)
        rw [unifyLineEndsOf_cons_plain plain, power_cons, power_cons, if_pos isMark, if_pos isMark]
        simp only [exponentSign_unified, takeDigits_unified, dropDigits_unified]
        split
        · rw [unifyLineEndsOf_cons_plain plain]
        · rfl
      · obtain ⟨behind, shape⟩ := exists_unifyLineEndsOf_cons mark text
        have notMark : ¬ (((if mark = '\r' then '\n' else mark) = 'e' : Bool) ||
            ((if mark = '\r' then '\n' else mark) = 'E' : Bool)) = true := by
          split
          · decide
          · exact isMark
        rw [power_cons, if_neg isMark, shape, power_cons, if_neg notMark]

theorem number_unified {value : Json} (read : number dialect text = .ok (value, rest)) :
    number dialect (unifyLineEndsOf text) = .ok (value, unifyLineEndsOf rest) := by
  rw [number_eq, unsignedNumber.eq_def] at read
  rw [number_eq, splitSign_unified, unsignedNumber.eq_def]
  split at read
  · cases read
  · next digits behind wholeRead =>
      rw [wholePart?_unified wholeRead]
      simp only [fraction_unified, power_unified] at read ⊢
      split at read
      · next isReal =>
          cases read
          rw [if_pos isReal]
      · next isWhole =>
          split at read
          · cases read
          · next short =>
              cases read
              rw [if_neg isWhole, if_neg short]

theorem scalar_unified {value : Json} (read : scalar dialect text = .ok (value, rest)) :
    scalar dialect (unifyLineEndsOf text) = .ok (value, unifyLineEndsOf rest) := by
  have words (entries : List (List Char × Json))
      (plain : ∀ entry ∈ entries, '\r' ∉ entry.1 ∧ '\n' ∉ entry.1) :
      (entries.findSome? fun entry =>
        (Text.dropStart? entry.1 (unifyLineEndsOf text)).map fun rest => (entry.2, rest)) =
      (entries.findSome? fun entry => (Text.dropStart? entry.1 text).map fun rest => (entry.2, rest)).map
        fun result => (result.1, unifyLineEndsOf result.2) := by
    induction entries with
    | nil => rfl
    | cons entry entries ih =>
        rw [List.forall_mem_cons] at plain
        simp only [List.findSome?_cons, ih plain.2,
          Text.dropStart?_unifyLineEndsOf plain.1.1 plain.1.2]
        cases Text.dropStart? entry.1 text <;> rfl
  have known := words constants (by decide)
  rw [scalar] at read ⊢
  split at read
  · next result found =>
      cases read
      have there := known.trans (congrArg _ found)
      split
      · next other same =>
          cases same.symm.trans there
          rfl
      · next notFound => cases notFound.symm.trans there
  · next notFound =>
      have nowhere := known.trans (congrArg _ notFound)
      split
      · next other same => cases same.symm.trans nowhere
      · exact number_unified read

/-! Strings. -/

theorem ne_carriage_of_hex {digit : Char} {value : Nat} (hex : Text.hexValue? digit = some value) :
    digit ≠ '\r' := by
  rintro rfl
  cases hex

theorem codeUnit?_unified {digits : List Char} {unit : Nat} (read : codeUnit? digits = some unit) :
    codeUnit? (unifyLineEndsOf digits) = some unit ∧ '\r' ∉ digits.take 4 ∧
      (unifyLineEndsOf digits).drop 4 = unifyLineEndsOf (digits.drop 4) := by
  obtain ⟨first, second, third, fourth, next, rest, rfl, hex⟩ := exists_digits_of_codeUnit? read
  have plain : ∀ digit ∈ [first, second, third, fourth], digit ≠ '\r' := fun digit member =>
    ne_carriage_of_hex (hex digit member).choose_spec
  have noCarriage : '\r' ∉ [first, second, third, fourth] := fun member => plain '\r' member rfl
  obtain ⟨behind, shape⟩ := exists_unifyLineEndsOf_cons next rest
  simp only [List.forall_mem_cons] at plain
  rw [unifyLineEndsOf_cons_plain plain.1, unifyLineEndsOf_cons_plain plain.2.1,
    unifyLineEndsOf_cons_plain plain.2.2.1, unifyLineEndsOf_cons_plain plain.2.2.2.1]
  refine ⟨?_, noCarriage, rfl⟩
  rw [shape]
  exact read

/-- A code unit is followed by an escape of another before and after line ends are unified. -/
theorem EscapeRead.unified {decoded : Char} {width : Nat} (read : EscapeRead dialect text decoded width) :
    EscapeRead dialect (unifyLineEndsOf text) decoded width ∧ '\r' ∉ text.take (width - 1) := by
  have plainUnit {digits : List Char} (plain : '\r' ∉ digits.take 4) : '\r' ∉ ('u' :: digits).take 5 := by
    rw [List.take_succ_cons, List.mem_cons, not_or]
    exact ⟨by decide, plain⟩
  cases read with
  | @letter letter character rest stands =>
      have plain : letter ≠ '\r' := by
        rintro rfl
        cases stands
      rw [unifyLineEndsOf_cons_plain plain]
      exact ⟨.letter stands, by simp [plain.symm]⟩
  | @pair digits more high low highRead isHigh follows lowRead isLow =>
      obtain ⟨highAgain, highPlain, behind⟩ := codeUnit?_unified highRead
      obtain ⟨lowAgain, lowPlain, -⟩ := codeUnit?_unified lowRead
      have followsAgain : (unifyLineEndsOf digits).drop 4 = '\\' :: 'u' :: unifyLineEndsOf more := by
        rw [behind, follows, unifyLineEndsOf_cons_plain (by decide), unifyLineEndsOf_cons_plain (by decide)]
      -- A pair is two escapes of six characters each.
      have parts : ('u' :: digits).take 11 = ('u' :: digits).take 5 ++ '\\' :: 'u' :: more.take 4 := by
        rw [List.take_add (i := 5) (j := 6), List.drop_succ_cons, follows]
        rfl
      rw [unifyLineEndsOf_cons_plain (by decide), Nat.add_one_sub_one, parts]
      refine ⟨.pair highAgain isHigh followsAgain lowAgain isLow, ?_⟩
      simp only [List.mem_append, List.mem_cons, not_or]
      exact ⟨plainUnit highPlain, by decide, by decide, lowPlain⟩
  | @unit digits code unitRead alone =>
      obtain ⟨unitAgain, plain, behind⟩ := codeUnit?_unified unitRead
      rw [unifyLineEndsOf_cons_plain (by decide)]
      refine ⟨.unit unitAgain fun more isHigh follows long => ?_, plainUnit plain⟩
      rw [behind] at follows
      obtain ⟨tail, before, rest⟩ := eq_cons_of_unifyLineEndsOf follows (by decide)
      obtain ⟨others, rfl, rfl⟩ := eq_cons_of_unifyLineEndsOf rest.symm (by decide)
      have longer := Text.length_unifyLineEndsOf_le others
      obtain ⟨other, otherRead, notLow⟩ := alone others isHigh before (by omega)
      exact ⟨other, (codeUnit?_unified otherRead).1, notLow⟩

theorem stringBody_unified {opening : List Char} (other : List Char) {body : List Char} {skip : Nat}
    (read : stringBody dialect opening skip text = .ok (body, rest)) (plain : '\r' ∉ text.take skip) :
    stringBody dialect other skip (unifyLineEndsOf text) = .ok (body, unifyLineEndsOf rest) := by
  induction text generalizing skip body with
  | nil => cases skip <;> cases read
  | cons character text ih =>
      cases skip with
      | succ skip =>
          rw [List.take_succ_cons, List.mem_cons, not_or] at plain
          rw [unifyLineEndsOf_cons_plain (Ne.symm plain.1)]
          exact ih read plain.2
      | zero =>
          rcases stringBody_cases read with ⟨rfl, rfl, rfl⟩ |
            ⟨rfl, decoded, width, others, escaped, othersRead, rfl⟩ |
            ⟨notQuote, notEscape, visible, others, othersRead, rfl⟩
          · rw [unifyLineEndsOf_cons_plain (by decide)]
            rfl
          · obtain ⟨again, kept⟩ := (EscapeRead.of_escape escaped).unified
            rw [unifyLineEndsOf_cons_plain (by decide), stringBody, if_neg (by decide), if_pos rfl,
              again.escape_eq other]
            simp only [bind, Except.bind, ih othersRead kept]
            rfl
          · have noCarriage : character ≠ '\r' := by
              rintro rfl
              exact visible (by decide)
            rw [unifyLineEndsOf_cons_plain noCarriage, stringBody, if_neg notQuote, if_neg notEscape,
              if_neg visible, ih othersRead (by simp)]
            rfl

theorem memberName_unified {name : String} (read : memberName dialect text = .ok (name, rest)) :
    memberName dialect (unifyLineEndsOf text) = .ok (name, unifyLineEndsOf rest) := by
  rw [memberName.eq_def] at read
  split at read
  · next inside =>
      rw [Outcome.bind_eq_ok] at read
      obtain ⟨⟨body, behind⟩, bodyRead, read⟩ := read
      simp only [] at read
      split at read
      · next behindColon colon =>
          cases read
          have again := stringBody_unified ('"' :: unifyLineEndsOf inside) bodyRead (by simp)
          rw [unifyLineEndsOf_cons_plain (by decide), memberName, again]
          simp only [bind, Except.bind, skipGaps_unified, colon]
          rw [unifyLineEndsOf_cons_plain (by decide)]
          simp only [skipGaps_unified]
          rfl
      · cases read
  · cases read

/-! Values. -/

theorem Leads.length_le {start last : Place} (leads : Leads start text last rest) :
    rest.length ≤ text.length := by
  obtain ⟨passed, rfl, -⟩ := leads
  rw [List.length_append]
  omega

theorem length_skipGaps_le (text : List Char) : (skipGaps text).length ≤ text.length :=
  (@skipGaps_leads 0 text).length_le

theorem length_behind_mark {mark : Char} {others : List Char} (plain : mark ≠ '\r')
    (found : skipGaps text = mark :: others) :
    (unifyLineEndsOf (skipGaps others)).length + 1 ≤ (unifyLineEndsOf text).length := by
  have gaps := length_skipGaps_le (unifyLineEndsOf text)
  have behind := length_skipGaps_le (unifyLineEndsOf others)
  rw [skipGaps_unified, found, unifyLineEndsOf_cons_plain plain, List.length_cons] at gaps
  rw [skipGaps_unified] at behind
  omega

theorem ne_of_unified {mark : Char} (mark_ne_feed : mark ≠ '\n') (other : ∀ rest, text ≠ mark :: rest) :
    ∀ rest, unifyLineEndsOf text ≠ mark :: rest := by
  intro rest shape
  obtain ⟨behind, same, -⟩ := eq_cons_of_unifyLineEndsOf shape mark_ne_feed
  exact other behind same

mutual

/-- The shorter text needs less fuel: two units for each character are always enough. -/
theorem readValue_unified (depth fuel more : Nat) {text rest : List Char} {value : Json}
    (read : readValue dialect depth fuel text = .ok (value, rest))
    (enough : 2 * (unifyLineEndsOf text).length + 1 ≤ more) :
    readValue dialect depth more (unifyLineEndsOf text) = .ok (value, unifyLineEndsOf rest) := by
  cases fuel with
  | zero => cases read
  | succ fuel =>
      obtain ⟨more, rfl⟩ := Nat.exists_eq_add_of_le' (Nat.le_trans (Nat.le_add_left 1 _) enough)
      cases ValueRead.of_readValue read with
      | @string inside body rest bodyRead =>
          have again := stringBody_unified ('"' :: unifyLineEndsOf inside) bodyRead (by simp)
          rw [unifyLineEndsOf_cons_plain (by decide), readValue]
          simp only [again, bind, Except.bind]
          rfl
      | emptyObject room closed =>
          rw [unifyLineEndsOf_cons_plain (by decide), readValue, if_neg (Nat.not_le.mpr room),
            skipGaps_unified, closed, unifyLineEndsOf_cons_plain (by decide)]
          rfl
      | @object inside rest members room goesOn membersRead =>
          have shorter := @length_behind_mark ('\x7b' :: inside) '\x7b' inside (by decide) rfl
          rw [unifyLineEndsOf_cons_plain (by decide), readValue, if_neg (Nat.not_le.mpr room),
            skipGaps_unified]
          split
          · next shape => exact absurd shape (ne_of_unified (by decide) goesOn _)
          · simp only [bind, Except.bind, readMembers_unified depth fuel more [] membersRead (by omega)]
            rfl
      | emptyArray room closed =>
          rw [unifyLineEndsOf_cons_plain (by decide), readValue, if_neg (Nat.not_le.mpr room),
            skipGaps_unified, closed, unifyLineEndsOf_cons_plain (by decide)]
          rfl
      | @array inside rest items room goesOn itemsRead =>
          have shorter := @length_behind_mark ('[' :: inside) '[' inside (by decide) rfl
          rw [unifyLineEndsOf_cons_plain (by decide), readValue, if_neg (Nat.not_le.mpr room),
            skipGaps_unified]
          split
          · next shape => exact absurd shape (ne_of_unified (by decide) goesOn _)
          · simp only [bind, Except.bind, readItems_unified depth fuel more itemsRead (by omega)]
            rfl
      | scalar notString notObject notArray scalarRead =>
          rw [readValue]
          · exact scalar_unified scalarRead
          · exact ne_of_unified (by decide) notString
          · exact ne_of_unified (by decide) notObject
          · exact ne_of_unified (by decide) notArray

theorem readMembers_unified (depth fuel more : Nat) (before : Entries Json) {entries : Entries Json}
    {text rest : List Char} (read : readMembers dialect (depth + 1) fuel before text = .ok (entries, rest))
    (enough : 2 * (unifyLineEndsOf text).length + 2 ≤ more) :
    readMembers dialect (depth + 1) more before (unifyLineEndsOf text) = .ok (entries, unifyLineEndsOf rest) := by
  cases fuel with
  | zero => cases read
  | succ fuel =>
      obtain ⟨more, rfl⟩ := Nat.exists_eq_add_of_le' (Nat.le_trans (Nat.le_add_left 1 _) enough)
      obtain ⟨name, behindName, member, behind, nameRead, memberRead, ended⟩ := readMembers_cases read
      have nameAgain := memberName_unified nameRead
      have nameShorter := ((@memberName_reads dialect 0 _).leads _ _ nameAgain).length_le
      have memberAgain := readValue_unified (depth + 1) fuel more memberRead (by omega)
      have memberShorter := ((readValue_reads (depth + 1) more _).leads _ _ memberAgain).length_le
      rw [readMembers, nameAgain]
      simp only [bind, Except.bind, memberAgain, skipGaps_unified]
      rcases ended with ⟨closed, rfl⟩ | ⟨others, comma, othersRead⟩
      · rw [closed, unifyLineEndsOf_cons_plain (by decide)]
        rfl
      · have shorter := length_behind_mark (by decide) comma
        rw [comma, unifyLineEndsOf_cons_plain (by decide)]
        simp only [skipGaps_unified]
        exact readMembers_unified depth fuel more _ othersRead (by omega)

theorem readItems_unified (depth fuel more : Nat) {text rest : List Char} {items : List Json}
    (read : readItems dialect (depth + 1) fuel text = .ok (items, rest))
    (enough : 2 * (unifyLineEndsOf text).length + 2 ≤ more) :
    readItems dialect (depth + 1) more (unifyLineEndsOf text) = .ok (items, unifyLineEndsOf rest) := by
  cases fuel with
  | zero => cases read
  | succ fuel =>
      obtain ⟨more, rfl⟩ := Nat.exists_eq_add_of_le' (Nat.le_trans (Nat.le_add_left 1 _) enough)
      obtain ⟨item, behind, itemRead, ended⟩ := readItems_cases read
      have itemAgain := readValue_unified (depth + 1) fuel more itemRead (by omega)
      have itemShorter := ((readValue_reads (depth + 1) more _).leads _ _ itemAgain).length_le
      rw [readItems, itemAgain]
      simp only [bind, Except.bind, skipGaps_unified]
      rcases ended with ⟨closed, rfl⟩ | ⟨others, otherItems, comma, othersRead, rfl⟩
      · rw [closed, unifyLineEndsOf_cons_plain (by decide)]
        rfl
      · have shorter := length_behind_mark (by decide) comma
        rw [comma, unifyLineEndsOf_cons_plain (by decide)]
        simp only [skipGaps_unified, readItems_unified depth fuel more othersRead (by omega)]
        rfl

end

theorem document_unified {result : Json} (read : document dialect text = .ok result) :
    document dialect (unifyLineEndsOf text) = .ok result := by
  rw [document.eq_def] at read
  split at read
  · cases read
  · next noMark =>
      rw [Outcome.bind_eq_ok] at read
      obtain ⟨⟨value, rest⟩, valueRead, ended⟩ := read
      have again := readValue_unified 0 _ (2 * (unifyLineEndsOf text).length + 1) valueRead (by
        have := length_skipGaps_le (unifyLineEndsOf text)
        rw [skipGaps_unified] at this
        omega)
      rw [document]
      · simp only [bind, Except.bind, skipGaps_unified, again]
        simp only [] at ended
        split at ended
        · next nothing =>
            cases ended
            rw [nothing]
            rfl
        · cases ended
      · exact ne_of_unified (by decide) noMark

theorem parse_unifyLineEnds {text : String} {result : Json} (read : parse dialect text = .ok result) :
    parse dialect (Text.unifyLineEnds text) = .ok result := by
  rw [parse, Text.unifyLineEnds, String.toList_ofList, document_unified (document_of_parse read)]
  rfl

end LoadScript.Json
