import LoadScript.Proofs.Json.Documents
import LoadScript.Proofs.Outcome

/-!
Documents that are read can be written and read again, without a change.
-/

namespace LoadScript.Json

variable {dialect : Dialect}

open Double (digitsValue)
open Double.Spelling (AllDigits)

theorem digitsValue_lt {digits : List Char} (all : AllDigits digits) :
    digitsValue digits < 10 ^ digits.length := by
  induction digits with
  | nil => decide
  | cons digit rest ih =>
      have restBound := ih fun character found => all character (List.mem_cons_of_mem _ found)
      have digitBound : digitsValue [digit] < 10 := by
        have : digit.toNat ≤ 57 := (Char.isDigit_iff_toNat.mp (all digit List.mem_cons_self)).2
        show 10 * 0 + (digit.toNat - 48) < 10
        omega
      rw [← List.singleton_append, Double.digitsValue_append, List.length_append, Nat.pow_add]
      have : 10 ^ rest.length * digitsValue [digit] ≤ 10 ^ rest.length * 9 :=
        Nat.mul_le_mul_left _ (by omega)
      rw [List.length_singleton]
      omega

theorem wholePart?_allDigits {text digits rest : List Char}
    (read : wholePart? text = some (digits, rest)) : AllDigits digits := by
  rw [wholePart?.eq_def] at read
  split at read
  · cases read
    exact Double.allDigits_zeros 1
  · split at read
    · next isDigit =>
        cases read
        rw [AllDigits, List.forall_mem_cons]
        exact ⟨isDigit, List.all_eq_true.mp List.all_takeWhile⟩
    · cases read
  · cases read

theorem unsignedNumber_isScalar {text sign unsigned rest : List Char} {value : Json}
    (read : unsignedNumber dialect text sign unsigned = .ok (value, rest)) : IsScalar dialect value := by
  rw [unsignedNumber] at read
  split at read
  · cases read
  · next digits behind wholeRead =>
      simp only [] at read
      split at read
      · cases read
        rw [IsScalar]
        cases numeralRead : Double.ofNumeral? _ with
        | none => exact .notANumber
        | some number => exact Double.ofNumeral?_isCanonical numeralRead
      · split at read
        · cases read
        · next short =>
            cases read
            have bound : digitsValue digits < 10 ^ dialect.digitLimit :=
              Nat.lt_of_lt_of_le (digitsValue_lt (wholePart?_allDigits wholeRead))
                (Nat.pow_le_pow_right (by decide) (Nat.not_lt.mp short))
            rw [IsScalar, Dialect.takes, decide_eq_true_eq]
            split
            · exact bound
            · rw [Int.natAbs_neg]
              exact bound

theorem constants_isScalar (dialect : Dialect) : ∀ entry ∈ constants, IsScalar dialect entry.2 := by
  simp [constants, IsScalar, Double.IsCanonical.notANumber, Double.IsCanonical.infinity]

theorem scalar_isScalar {text rest : List Char} {value : Json}
    (read : scalar dialect text = .ok (value, rest)) : IsScalar dialect value := by
  simp only [scalar] at read
  split at read
  · next result found =>
      obtain ⟨entry, known, matched⟩ := List.exists_of_findSome?_eq_some found
      obtain ⟨behind, -, rfl⟩ := Option.map_eq_some_iff.mp matched
      cases read
      exact constants_isScalar dialect entry known
  · rw [number_eq] at read
    exact unsignedNumber_isScalar read

theorem isReadable_of_isScalar {depth : Nat} {document : Json} (isScalar : IsScalar dialect document) :
    IsReadable dialect depth document := by
  cases document with
  | null => trivial
  | boolean value => trivial
  | whole value => exact isScalar
  | real value => exact isScalar
  | string value => trivial
  | array items => exact isScalar.elim
  | object members => exact isScalar.elim

theorem membersReadable_put {depth : Nat} {name : String} {member : Json} {entries : Entries Json}
    (before : MembersReadable dialect depth entries) (readable : IsReadable dialect depth member) :
    MembersReadable dialect depth (entries.put name member) := by
  induction entries with
  | nil => exact ⟨readable, trivial⟩
  | cons entry rest ih =>
      obtain ⟨present, old⟩ := entry
      rw [Entries.put]
      split
      · exact ⟨readable, before.2⟩
      · exact ⟨before.1, ih before.2⟩

theorem membersReadable_append {depth : Nat} {first second : Entries Json}
    (firstReadable : MembersReadable dialect depth first) (secondReadable : MembersReadable dialect depth second) :
    MembersReadable dialect depth (first ++ second) := by
  induction first with
  | nil => exact secondReadable
  | cons entry rest ih => exact ⟨firstReadable.1, ih firstReadable.2⟩

theorem membersReadable_of_forall {depth : Nat} {members : Entries Json}
    (each : ∀ entry ∈ members, IsReadable dialect depth entry.2) : MembersReadable dialect depth members := by
  induction members with
  | nil => trivial
  | cons entry rest ih =>
      rw [List.forall_mem_cons] at each
      exact ⟨each.1, ih each.2⟩

theorem itemsReadable_map {α : Type} {depth : Nat} {values : List α} {convert : α → Json}
    (each : ∀ value ∈ values, IsReadable dialect depth (convert value)) :
    ItemsReadable dialect depth (values.map convert) := by
  induction values with
  | nil => trivial
  | cons value rest ih =>
      rw [List.forall_mem_cons] at each
      exact ⟨each.1, ih each.2⟩

/-! What reading takes off a text. -/

theorem stringBody_cases {opening text body rest : List Char} {character : Char}
    (read : stringBody dialect opening 0 (character :: text) = .ok (body, rest)) :
    (character = '"' ∧ text = rest ∧ body = []) ∨
      (character = '\\' ∧ ∃ decoded width others, escape dialect opening ('\\' :: text) = .ok (decoded, width) ∧
        stringBody dialect opening (width - 1) text = .ok (others, rest) ∧ body = decoded :: others) ∨
      (character ≠ '"' ∧ character ≠ '\\' ∧ ¬ character.toNat < 0x20 ∧
        ∃ others, stringBody dialect opening 0 text = .ok (others, rest) ∧ body = character :: others) := by
  rw [stringBody] at read
  split at read
  · next closes =>
      cases read
      exact .inl ⟨closes, rfl, rfl⟩
  · next notQuote =>
      split at read
      · next starts =>
          cases starts
          rw [Outcome.bind_eq_ok] at read
          obtain ⟨⟨decoded, width⟩, escaped, read⟩ := read
          rw [Outcome.bind_eq_ok] at read
          obtain ⟨⟨others, last⟩, othersRead, same⟩ := read
          cases same
          exact .inr (.inl ⟨rfl, decoded, width, others, escaped, othersRead, rfl⟩)
      · next notEscape =>
          split at read
          · cases read
          · next visible =>
              rw [Outcome.bind_eq_ok] at read
              obtain ⟨⟨others, last⟩, othersRead, same⟩ := read
              cases same
              exact .inr (.inr ⟨notQuote, notEscape, visible, others, othersRead, rfl⟩)

inductive ValueRead (dialect : Dialect) (depth fuel : Nat) :
    (text : List Char) → Json → (rest : List Char) → Prop where
  | string {inside body rest : List Char}
      (read : stringBody dialect ('"' :: inside) 0 inside = .ok (body, rest)) :
      ValueRead dialect depth fuel ('"' :: inside) (.string (String.ofList body)) rest
  | emptyObject {inside rest : List Char} (room : depth < dialect.nestingLimit)
      (closed : skipGaps inside = '}' :: rest) : ValueRead dialect depth fuel ('{' :: inside) (.object []) rest
  | object {inside rest : List Char} {members : Entries Json} (room : depth < dialect.nestingLimit)
      (goesOn : ∀ behind, skipGaps inside ≠ '}' :: behind)
      (read : readMembers dialect (depth + 1) fuel [] (skipGaps inside) = .ok (members, rest)) :
      ValueRead dialect depth fuel ('{' :: inside) (.object members) rest
  | emptyArray {inside rest : List Char} (room : depth < dialect.nestingLimit)
      (closed : skipGaps inside = ']' :: rest) : ValueRead dialect depth fuel ('[' :: inside) (.array []) rest
  | array {inside rest : List Char} {items : List Json} (room : depth < dialect.nestingLimit)
      (goesOn : ∀ behind, skipGaps inside ≠ ']' :: behind)
      (read : readItems dialect (depth + 1) fuel (skipGaps inside) = .ok (items, rest)) :
      ValueRead dialect depth fuel ('[' :: inside) (.array items) rest
  | scalar {text rest : List Char} {value : Json} (notString : ∀ inside, text ≠ '"' :: inside)
      (notObject : ∀ inside, text ≠ '{' :: inside) (notArray : ∀ inside, text ≠ '[' :: inside)
      (read : scalar dialect text = .ok (value, rest)) : ValueRead dialect depth fuel text value rest

theorem ValueRead.of_readValue {depth fuel : Nat} {text rest : List Char} {value : Json}
    (read : readValue dialect depth (fuel + 1) text = .ok (value, rest)) :
    ValueRead dialect depth fuel text value rest := by
  rw [readValue.eq_def] at read
  simp only [] at read
  split at read
  · rw [Outcome.bind_eq_ok] at read
    obtain ⟨⟨body, behind⟩, bodyRead, same⟩ := read
    cases same
    exact .string bodyRead
  · split at read
    · cases read
    · next room =>
        split at read
        · next closed =>
            cases read
            exact .emptyObject (Nat.not_le.mp room) closed
        · next goesOn =>
            rw [Outcome.bind_eq_ok] at read
            obtain ⟨⟨members, behind⟩, membersRead, same⟩ := read
            cases same
            exact .object (Nat.not_le.mp room) goesOn membersRead
  · split at read
    · cases read
    · next room =>
        split at read
        · next closed =>
            cases read
            exact .emptyArray (Nat.not_le.mp room) closed
        · next goesOn =>
            rw [Outcome.bind_eq_ok] at read
            obtain ⟨⟨items, behind⟩, itemsRead, same⟩ := read
            cases same
            exact .array (Nat.not_le.mp room) goesOn itemsRead
  · next notString notObject notArray => exact .scalar notString notObject notArray read

theorem readMembers_cases {depth fuel : Nat} {before entries : Entries Json} {text rest : List Char}
    (read : readMembers dialect depth (fuel + 1) before text = .ok (entries, rest)) :
    ∃ name behindName member behind, memberName dialect text = .ok (name, behindName) ∧
      readValue dialect depth fuel behindName = .ok (member, behind) ∧
        (skipGaps behind = '}' :: rest ∧ entries = before.put name member ∨
          ∃ more, skipGaps behind = ',' :: more ∧
            readMembers dialect depth fuel (before.put name member) (skipGaps more) = .ok (entries, rest)) := by
  rw [readMembers, Outcome.bind_eq_ok] at read
  obtain ⟨⟨name, behindName⟩, nameRead, read⟩ := read
  rw [Outcome.bind_eq_ok] at read
  obtain ⟨⟨member, behind⟩, memberRead, read⟩ := read
  refine ⟨name, behindName, member, behind, nameRead, memberRead, ?_⟩
  simp only [] at read
  split at read
  · next closed =>
      cases read
      exact .inl ⟨closed, rfl⟩
  · next more comma => exact .inr ⟨more, comma, read⟩
  · cases read

theorem readItems_cases {depth fuel : Nat} {items : List Json} {text rest : List Char}
    (read : readItems dialect depth (fuel + 1) text = .ok (items, rest)) :
    ∃ item behind, readValue dialect depth fuel text = .ok (item, behind) ∧
      (skipGaps behind = ']' :: rest ∧ items = [item] ∨
        ∃ more others, skipGaps behind = ',' :: more ∧
          readItems dialect depth fuel (skipGaps more) = .ok (others, rest) ∧ items = item :: others) := by
  rw [readItems, Outcome.bind_eq_ok] at read
  obtain ⟨⟨item, behind⟩, itemRead, read⟩ := read
  refine ⟨item, behind, itemRead, ?_⟩
  simp only [] at read
  split at read
  · next closed =>
      cases read
      exact .inl ⟨closed, rfl⟩
  · next more comma =>
      rw [Outcome.bind_eq_ok] at read
      obtain ⟨⟨others, last⟩, othersRead, same⟩ := read
      cases same
      exact .inr ⟨more, others, comma, othersRead, rfl⟩
  · cases read

/-! Documents that were read. -/

mutual

theorem readValue_isReadable (depth fuel : Nat) {text rest : List Char} {value : Json}
    (read : readValue dialect depth fuel text = .ok (value, rest)) : IsReadable dialect depth value := by
  cases fuel with
  | zero => cases read
  | succ fuel =>
      cases ValueRead.of_readValue read with
      | string => trivial
      | emptyObject room => exact ⟨room, List.nodup_nil, trivial⟩
      | object room _ membersRead =>
          obtain ⟨apart, readable⟩ :=
            readMembers_isReadable (depth + 1) fuel [] List.nodup_nil trivial membersRead
          exact ⟨room, apart, readable⟩
      | emptyArray room => exact ⟨room, trivial⟩
      | array room _ itemsRead => exact ⟨room, readItems_isReadable (depth + 1) fuel itemsRead⟩
      | scalar _ _ _ scalarRead => exact isReadable_of_isScalar (scalar_isScalar scalarRead)

theorem readMembers_isReadable (depth fuel : Nat) (before : Entries Json) {entries : Entries Json}
    {text rest : List Char} (apart : (before.map Prod.fst).Nodup)
    (readable : MembersReadable dialect depth before)
    (read : readMembers dialect depth fuel before text = .ok (entries, rest)) :
    (entries.map Prod.fst).Nodup ∧ MembersReadable dialect depth entries := by
  cases fuel with
  | zero => cases read
  | succ fuel =>
      obtain ⟨name, _, member, _, -, memberRead, ended⟩ := readMembers_cases read
      have memberReadable := readValue_isReadable depth fuel memberRead
      have nowApart : ((before.put name member).map Prod.fst).Nodup := Entries.nodup_put apart member
      have nowReadable : MembersReadable dialect depth (before.put name member) :=
        membersReadable_put readable memberReadable
      rcases ended with ⟨-, rfl⟩ | ⟨_, -, othersRead⟩
      · exact ⟨nowApart, nowReadable⟩
      · exact readMembers_isReadable depth fuel _ nowApart nowReadable othersRead

theorem readItems_isReadable (depth fuel : Nat) {text rest : List Char} {items : List Json}
    (read : readItems dialect depth fuel text = .ok (items, rest)) : ItemsReadable dialect depth items := by
  cases fuel with
  | zero => cases read
  | succ fuel =>
      obtain ⟨item, _, itemRead, ended⟩ := readItems_cases read
      have itemReadable := readValue_isReadable depth fuel itemRead
      rcases ended with ⟨-, rfl⟩ | ⟨_, others, -, othersRead, rfl⟩
      · exact ⟨itemReadable, trivial⟩
      · exact ⟨itemReadable, readItems_isReadable depth fuel othersRead⟩

end

theorem document_of_parse {text : String} {result : Json} (read : parse dialect text = .ok result) :
    document dialect text.toList = .ok result := by
  rw [parse] at read
  cases outcome : document dialect text.toList with
  | error fault =>
      rw [outcome] at read
      cases read
  | ok value =>
      rw [outcome] at read
      cases read
      rfl

theorem isReadable_of_parse {text : String} {result : Json} (read : parse dialect text = .ok result) :
    IsReadable dialect 0 result := by
  have documentRead := document_of_parse read
  rw [document.eq_def] at documentRead
  split at documentRead
  · cases documentRead
  · rw [Outcome.bind_eq_ok] at documentRead
    obtain ⟨⟨value, behind⟩, valueRead, ended⟩ := documentRead
    have readable := readValue_isReadable 0 _ valueRead
    simp only [] at ended
    split at ended
    · cases ended
      exact readable
    · cases ended

/-- The text of a document is read as that document. -/
theorem parse_render (layout : Layout) {result : Json} (readable : IsReadable dialect 0 result) :
    parse dialect (result.render layout) = .ok result := by
  have starts := renderAt_startsValue layout 0 readable
  have stops := stopsAt_of_startsValue starts
  have nothingFollows : FollowsNumber [] := by
    intro character found
    cases found
  have read := readValue_renderAt layout 0 0
    (2 * (renderAt layout 0 result).toList.length + 1) result readable (by omega) nothingFollows
  rw [List.append_nil] at read
  have documentRead : document dialect (renderAt layout 0 result).toList = .ok result := by
    have skipped : skipGaps (renderAt layout 0 result).toList = (renderAt layout 0 result).toList :=
      @skipGaps_append [] _ (by simp [AllGaps]) stops
    obtain ⟨first, others, textEq, isStart⟩ := starts
    rw [textEq] at read skipped ⊢
    rw [document, skipped, read]
    · rfl
    · intro behind same
      exact ne_of_starts isStart (by decide) (List.cons.inj same).1
  rw [parse, render, documentRead]
  rfl

end LoadScript.Json
