import LoadScript.Json.Parser
import LoadScript.Proofs.Entries
import LoadScript.Proofs.Json.Numbers
import LoadScript.Proofs.Json.Strings

/-!
Documents that are written as JSON text are read again, in every layout.
-/

namespace LoadScript.Json

variable {dialect : Dialect}

def IsScalar (dialect : Dialect) : Json → Prop
  | .null | .boolean _ => True
  | .whole value => dialect.takes value = true
  | .real value => value.IsCanonical
  | .string _ | .array _ | .object _ => False

mutual

/-- Whether a document can be read: its whole numbers are not too long, its doubles have their one form, no
name stands twice in an object, and no list or object lies too deep. -/
def IsReadable (dialect : Dialect) (depth : Nat) : Json → Prop
  | .string _ => True
  | .array items => depth < dialect.nestingLimit ∧ ItemsReadable dialect (depth + 1) items
  | .object members =>
      depth < dialect.nestingLimit ∧ (members.map Prod.fst).Nodup ∧ MembersReadable dialect (depth + 1) members
  | other => IsScalar dialect other

def ItemsReadable (dialect : Dialect) (depth : Nat) : List Json → Prop
  | [] => True
  | item :: rest => IsReadable dialect depth item ∧ ItemsReadable dialect depth rest

def MembersReadable (dialect : Dialect) (depth : Nat) : List (String × Json) → Prop
  | [] => True
  | (_, member) :: rest => IsReadable dialect depth member ∧ MembersReadable dialect depth rest

end

theorem isReadable_whole (reader : Reader) (depth : Nat) {value : Int} (fits : LongNumber.fits value = true) :
    IsReadable reader depth (.whole value) := by
  rw [← reader.takes_eq_fits] at fits
  exact fits

def AllGaps (text : List Char) : Prop := ∀ character ∈ text, isGap character = true

theorem allGaps_replicate {character : Char} (gap : isGap character = true) (count : Nat) :
    AllGaps (List.replicate count character) := by
  intro other found
  rw [List.eq_of_mem_replicate found]
  exact gap

theorem lineBreak_allGaps (layout : Layout) (level : Nat) :
    AllGaps (lineBreak layout level).toList := by
  rw [lineBreak]
  cases layout.indentation with
  | none =>
      intro character found
      simp at found
  | some width =>
      rw [String.toList_ofList]
      intro character found
      rcases List.mem_cons.mp found with rfl | blank
      · decide
      · exact allGaps_replicate (by decide) _ character blank

theorem separator_eq (layout : Layout) (level : Nat) :
    ∃ gaps, (separator layout level).toList = ',' :: gaps ∧ AllGaps gaps := by
  rw [separator]
  split
  · exact ⟨[' '], rfl, allGaps_replicate (by decide) 1⟩
  · next width _ =>
      refine ⟨(lineBreak layout level).toList, ?_, lineBreak_allGaps layout level⟩
      rw [String.toList_append]
      rfl

theorem skipGaps_append {gaps text : List Char} (all : AllGaps gaps)
    (stops : Text.StopsAt isGap text) : skipGaps (gaps ++ text) = text :=
  Text.dropWhile_run all stops

def startsScalar (character : Char) : Bool := character.isAlphanum || character = '-'

def startsValue (character : Char) : Bool :=
  startsScalar character || character = '"' || character = '[' || character = '{'

theorem ne_of_starts {kind : Char → Bool} {first other : Char} (starts : kind first = true)
    (excluded : kind other = false) : first ≠ other := by
  rintro rfl
  rw [starts] at excluded
  exact absurd excluded (by decide)

theorem stopsAt_of_startsValue {text : List Char} (starts : Text.StartsWith startsValue text) :
    Text.StopsAt isGap text := by
  obtain ⟨first, rest, rfl, starts⟩ := starts
  simp only [Text.stopsAt_cons, isGap, Bool.or_eq_false_iff, decide_eq_false_iff_not]
  exact ⟨⟨⟨ne_of_starts starts (by decide), ne_of_starts starts (by decide)⟩,
    ne_of_starts starts (by decide)⟩, ne_of_starts starts (by decide)⟩

theorem startsScalar_signed (negative : Bool) {digits : List Char}
    (all : Double.Spelling.AllDigits digits) (nonempty : digits ≠ []) :
    Text.StartsWith startsScalar (Double.Spelling.signText negative ++ digits) := by
  obtain ⟨digit, rest, rfl⟩ := List.exists_cons_of_ne_nil nonempty
  cases negative with
  | true => exact ⟨'-', _, rfl, by decide⟩
  | false =>
      refine ⟨digit, rest, rfl, ?_⟩
      rw [startsScalar, Char.isAlphanum, all digit List.mem_cons_self, Bool.or_true, Bool.true_or]

theorem realText_startsScalar {value : Double} (canonical : value.IsCanonical) :
    Text.StartsWith startsScalar (realText value).toList := by
  cases canonical with
  | notANumber => exact ⟨'N', _, rfl, by decide⟩
  | @infinity negative =>
      cases negative with
      | true => exact ⟨'-', _, rfl, by decide⟩
      | false => exact ⟨'I', _, rfl, by decide⟩
  | @finite negative mantissa exponent normal =>
      obtain ⟨spelling, proper, textEq, -⟩ := Double.finiteText_spelled negative normal
      rw [realText, textEq, Double.Spelling.text, ← List.append_assoc]
      exact (startsScalar_signed negative proper.whole_digits proper.whole_ne_nil).append _

theorem quotedText_toList (keepsUnicode : Bool) (value : String) :
    (quotedText keepsUnicode value).toList =
      '"' :: (value.toList.flatMap (quotedChar keepsUnicode) ++ ['"']) := by
  rw [quotedText, String.toList_ofList, List.cons_append]

theorem enclosed_nil (layout : Layout) (level : Nat) (left right : String) :
    (enclosed layout level left right []).toList = left.toList ++ right.toList :=
  String.toList_append

theorem enclosed_cons (layout : Layout) (level : Nat) (left right part : String)
    (parts : List String) :
    (enclosed layout level left right (part :: parts)).toList =
      left.toList ++ ((lineBreak layout (level + 1)).toList ++
        ((String.intercalate (separator layout (level + 1)) (part :: parts)).toList ++
          ((lineBreak layout level).toList ++ right.toList))) := by
  rw [enclosed]
  · simp only [String.toList_append, List.append_assoc]
  · simp

theorem enclosed_startsValue (layout : Layout) (level : Nat) {left right : String}
    (parts : List String) (starts : Text.StartsWith startsValue left.toList) :
    Text.StartsWith startsValue (enclosed layout level left right parts).toList := by
  cases parts with
  | nil =>
      rw [enclosed_nil]
      exact starts.append _
  | cons part parts =>
      rw [enclosed_cons]
      exact starts.append _

theorem renderAt_startsScalar (layout : Layout) (level : Nat) {document : Json}
    (isScalar : IsScalar dialect document) :
    Text.StartsWith startsScalar (renderAt layout level document).toList := by
  cases document with
  | null =>
      rw [renderAt]
      exact ⟨'n', _, rfl, by decide⟩
  | boolean value =>
      rw [renderAt]
      cases value with
      | true => exact ⟨'t', _, rfl, by decide⟩
      | false => exact ⟨'f', _, rfl, by decide⟩
  | whole value =>
      rw [renderAt, Double.toList_toString]
      exact startsScalar_signed _ (Double.allDigits_toDigits _) Nat.toDigits_ne_nil
  | real value =>
      rw [renderAt]
      exact realText_startsScalar isScalar
  | string value => exact isScalar.elim
  | array items => exact isScalar.elim
  | object members => exact isScalar.elim

theorem renderAt_startsValue (layout : Layout) (level : Nat) {depth : Nat} {document : Json}
    (readable : IsReadable dialect depth document) :
    Text.StartsWith startsValue (renderAt layout level document).toList := by
  have ofScalar (isScalar : IsScalar dialect document) :
      Text.StartsWith startsValue (renderAt layout level document).toList :=
    (renderAt_startsScalar layout level isScalar).imp fun character starts => by
      rw [startsValue, starts, Bool.true_or, Bool.true_or, Bool.true_or]
  cases document with
  | null => exact ofScalar readable
  | boolean value => exact ofScalar readable
  | whole value => exact ofScalar readable
  | real value => exact ofScalar readable
  | string value =>
      rw [renderAt, quotedText_toList]
      exact ⟨'"', _, rfl, by decide⟩
  | array items =>
      rw [renderAt]
      exact enclosed_startsValue layout level _ ⟨'[', [], rfl, by decide⟩
  | object members =>
      rw [renderAt]
      exact enclosed_startsValue layout level _ ⟨'{', [], rfl, by decide⟩

theorem scalar_signed (negative : Bool) {digits : List Char}
    (all : Double.Spelling.AllDigits digits) (nonempty : digits ≠ []) (rest : List Char) :
    scalar dialect (Double.Spelling.signText negative ++ digits ++ rest) =
      number dialect (Double.Spelling.signText negative ++ digits ++ rest) := by
  obtain ⟨digit, others, rfl⟩ := List.exists_cons_of_ne_nil nonempty
  have other (letter : Char) (excluded : letter.isDigit = false) : letter ≠ digit := by
    rintro rfl
    rw [all letter List.mem_cons_self] at excluded
    exact absurd excluded (by decide)
  cases negative <;>
    simp [scalar, constants, Double.Spelling.signText, Text.dropStart?, other 'n' (by decide),
      other 't' (by decide), other 'f' (by decide), other 'N' (by decide), other 'I' (by decide),
      other '-' (by decide)]

theorem scalar_realText {value : Double} (canonical : value.IsCanonical) {rest : List Char}
    (follows : FollowsNumber rest) :
    scalar dialect ((realText value).toList ++ rest) = .ok (.real value, rest) := by
  cases canonical with
  | notANumber => rfl
  | @infinity negative => cases negative <;> rfl
  | @finite negative mantissa exponent normal =>
      have read := number_real dialect negative normal follows
      obtain ⟨spelling, proper, textEq, -⟩ := Double.finiteText_spelled negative normal
      rw [textEq, Double.Spelling.text, ← List.append_assoc, List.append_assoc] at read
      rw [realText, textEq, Double.Spelling.text, ← List.append_assoc, List.append_assoc,
        scalar_signed negative proper.whole_digits proper.whole_ne_nil, read]

theorem scalar_renderAt (layout : Layout) (level : Nat) {document : Json}
    (isScalar : IsScalar dialect document) {rest : List Char} (follows : FollowsNumber rest) :
    scalar dialect ((renderAt layout level document).toList ++ rest) = .ok (document, rest) := by
  cases document with
  | null =>
      rw [renderAt]
      rfl
  | boolean value =>
      rw [renderAt]
      cases value <;> rfl
  | whole value =>
      have read := number_whole isScalar follows
      rw [Double.toList_toString] at read
      rw [renderAt, Double.toList_toString, scalar_signed _ (Double.allDigits_toDigits _)
        Nat.toDigits_ne_nil, read]
  | real value =>
      rw [renderAt]
      exact scalar_realText isScalar follows
  | string value => exact isScalar.elim
  | array items => exact isScalar.elim
  | object members => exact isScalar.elim

theorem readValue_of_scalar (depth fuel : Nat) {text : List Char}
    (starts : Text.StartsWith startsScalar text) : readValue dialect depth (fuel + 1) text = scalar dialect text := by
  obtain ⟨first, rest, rfl, starts⟩ := starts
  rw [readValue]
  · intro text same
    exact ne_of_starts starts (by decide) (List.cons.inj same).1
  · intro text same
    exact ne_of_starts starts (by decide) (List.cons.inj same).1
  · intro text same
    exact ne_of_starts starts (by decide) (List.cons.inj same).1

theorem readValue_scalar (layout : Layout) (level depth : Nat) {fuel : Nat} (document : Json)
    (isScalar : IsScalar dialect document) (fueled : 0 < fuel) {rest : List Char}
    (follows : FollowsNumber rest) :
    readValue dialect depth fuel ((renderAt layout level document).toList ++ rest) = .ok (document, rest) := by
  obtain ⟨fuel, rfl⟩ : ∃ less, fuel = less + 1 := ⟨fuel - 1, by omega⟩
  rw [readValue_of_scalar depth fuel ((renderAt_startsScalar layout level isScalar).append rest),
    scalar_renderAt layout level isScalar follows]

theorem readValue_string (layout : Layout) (level depth : Nat) {fuel : Nat} (value : String)
    (fueled : 0 < fuel) (rest : List Char) :
    readValue dialect depth fuel ((renderAt layout level (.string value)).toList ++ rest) =
      .ok (.string value, rest) := by
  obtain ⟨fuel, rfl⟩ : ∃ less, fuel = less + 1 := ⟨fuel - 1, by omega⟩
  rw [renderAt, quotedText_toList, List.cons_append, List.append_assoc, readValue,
    List.singleton_append, stringBody_quoted]
  simp only [bind, Except.bind, String.ofList_toList]
  rfl

theorem memberName_quotedText (keepsUnicode : Bool) (name : String) {text : List Char}
    (stops : Text.StopsAt isGap text) :
    memberName dialect ((quotedText keepsUnicode name ++ ": ").toList ++ text) = .ok (name, text) := by
  have gap : skipGaps (' ' :: text) = text :=
    skipGaps_append (allGaps_replicate (by decide) 1) stops
  rw [String.toList_append, quotedText_toList, List.append_assoc, List.cons_append,
    List.append_assoc, memberName, List.singleton_append, stringBody_quoted]
  show Except.ok (String.ofList name.toList, skipGaps (' ' :: text)) = .ok (name, text)
  rw [gap, String.ofList_toList]

theorem followsNumber_cons {character : Char} (ends : endsNumber character = true)
    (rest : List Char) : FollowsNumber (character :: rest) := by
  intro other found
  cases found
  exact ends

theorem followsNumber_gaps {gaps rest : List Char} (all : AllGaps gaps)
    (follows : FollowsNumber rest) : FollowsNumber (gaps ++ rest) := by
  cases gaps with
  | nil => exact follows
  | cons gap gaps =>
      apply followsNumber_cons
      rw [endsNumber, all gap List.mem_cons_self, Bool.or_true]

theorem skipGaps_of_gaps {gaps rest : List Char} {character : Char} (all : AllGaps gaps)
    (visible : isGap character = false) :
    skipGaps (gaps ++ character :: rest) = character :: rest :=
  skipGaps_append all (Text.stopsAt_cons.mpr visible)

section Steps

variable {depth fuel : Nat} {text more gaps rest : List Char}

theorem readItems_last {item : Json}
    (read : readValue dialect depth fuel text = .ok (item, gaps ++ ']' :: rest)) (all : AllGaps gaps) :
    readItems dialect depth (fuel + 1) text = .ok ([item], rest) := by
  rw [readItems, read]
  simp only [bind, Except.bind, skipGaps_of_gaps all (by decide : isGap ']' = false)]
  rfl

theorem readItems_more {item : Json} {items : List Json}
    (read : readValue dialect depth fuel text = .ok (item, ',' :: (gaps ++ more))) (all : AllGaps gaps)
    (stops : Text.StopsAt isGap more) (readRest : readItems dialect depth fuel more = .ok (items, rest)) :
    readItems dialect depth (fuel + 1) text = .ok (item :: items, rest) := by
  have comma : skipGaps (',' :: (gaps ++ more)) = ',' :: (gaps ++ more) := rfl
  rw [readItems, read]
  simp only [bind, Except.bind, comma, skipGaps_append all stops, readRest]
  rfl

theorem readMembers_last {before : Entries Json} {name : String} {member : Json}
    {value : List Char} (readName : memberName dialect text = .ok (name, value))
    (read : readValue dialect depth fuel value = .ok (member, gaps ++ '}' :: rest)) (all : AllGaps gaps) :
    readMembers dialect depth (fuel + 1) before text = .ok (before.put name member, rest) := by
  rw [readMembers, readName]
  simp only [bind, Except.bind, read, skipGaps_of_gaps all (by decide : isGap '}' = false)]
  rfl

theorem readMembers_more {before entries : Entries Json} {name : String} {member : Json}
    {value : List Char} (readName : memberName dialect text = .ok (name, value))
    (read : readValue dialect depth fuel value = .ok (member, ',' :: (gaps ++ more))) (all : AllGaps gaps)
    (stops : Text.StopsAt isGap more)
    (readRest : readMembers dialect depth fuel (before.put name member) more = .ok (entries, rest)) :
    readMembers dialect depth (fuel + 1) before text = .ok (entries, rest) := by
  have comma : skipGaps (',' :: (gaps ++ more)) = ',' :: (gaps ++ more) := rfl
  rw [readMembers, readName]
  simp only [bind, Except.bind, read, comma, skipGaps_append all stops, readRest]

theorem readValue_emptyArray (room : depth < dialect.nestingLimit) :
    readValue dialect depth (fuel + 1) ('[' :: ']' :: rest) = .ok (.array [], rest) := by
  rw [readValue, if_neg (Nat.not_le.mpr room)]
  rfl

theorem readValue_array {items : List Json} (room : depth < dialect.nestingLimit) (all : AllGaps gaps)
    (starts : Text.StartsWith startsValue more)
    (read : readItems dialect (depth + 1) fuel more = .ok (items, rest)) :
    readValue dialect depth (fuel + 1) ('[' :: (gaps ++ more)) = .ok (.array items, rest) := by
  rw [readValue, if_neg (Nat.not_le.mpr room), skipGaps_append all (stopsAt_of_startsValue starts)]
  obtain ⟨first, others, rfl, isStart⟩ := starts
  split
  · next same => exact absurd (List.cons.inj same).1 (ne_of_starts isStart (by decide))
  · simp only [bind, Except.bind, read]
    rfl

theorem readValue_emptyObject (room : depth < dialect.nestingLimit) :
    readValue dialect depth (fuel + 1) ('{' :: '}' :: rest) = .ok (.object [], rest) := by
  rw [readValue, if_neg (Nat.not_le.mpr room)]
  rfl

theorem readValue_object {members : List (String × Json)} (room : depth < dialect.nestingLimit)
    (all : AllGaps gaps) (starts : Text.StartsWith startsValue more)
    (read : readMembers dialect (depth + 1) fuel [] more = .ok (members, rest)) :
    readValue dialect depth (fuel + 1) ('{' :: (gaps ++ more)) = .ok (.object members, rest) := by
  rw [readValue, if_neg (Nat.not_le.mpr room), skipGaps_append all (stopsAt_of_startsValue starts)]
  obtain ⟨first, others, rfl, isStart⟩ := starts
  split
  · next same => exact absurd (List.cons.inj same).1 (ne_of_starts isStart (by decide))
  · simp only [bind, Except.bind, read]
    rfl

end Steps

theorem renderItems_startsValue (layout : Layout) (level : Nat) {depth : Nat} {item : Json}
    (rest : List Json) (readable : IsReadable dialect depth item) :
    Text.StartsWith startsValue
      (String.intercalate (separator layout level) (renderItems layout level (item :: rest))).toList := by
  have starts := renderAt_startsValue layout level readable
  rw [renderItems]
  cases rest with
  | nil =>
      rw [renderItems, String.intercalate_singleton]
      exact starts
  | cons next rest =>
      rw [renderItems, String.intercalate_cons_cons, String.toList_append, String.toList_append,
        List.append_assoc]
      exact starts.append _

theorem renderMembers_startsValue (layout : Layout) (level : Nat) (name : String) (member : Json)
    (rest : List (String × Json)) :
    Text.StartsWith startsValue (String.intercalate (separator layout level)
      (renderMembers layout level ((name, member) :: rest))).toList := by
  have starts : Text.StartsWith startsValue
      (quotedText layout.keepsUnicode name ++ ": " ++ renderAt layout level member).toList := by
    rw [String.toList_append, String.toList_append, quotedText_toList]
    exact ⟨'"', _, rfl, by decide⟩
  rw [renderMembers]
  cases rest with
  | nil =>
      rw [renderMembers, String.intercalate_singleton]
      exact starts
  | cons next rest =>
      rw [renderMembers, String.intercalate_cons_cons, String.toList_append, String.toList_append,
        List.append_assoc]
      exact starts.append _

theorem memberText_toList (layout : Layout) (level : Nat) (name : String) (member : Json) :
    (quotedText layout.keepsUnicode name ++ ": " ++ renderAt layout level member).toList =
      (quotedText layout.keepsUnicode name ++ ": ").toList ++ (renderAt layout level member).toList :=
  String.toList_append

mutual

theorem readValue_renderAt (layout : Layout) (level depth fuel : Nat) (document : Json)
    (readable : IsReadable dialect depth document)
    (fueled : 2 * (renderAt layout level document).toList.length < fuel) {rest : List Char}
    (follows : FollowsNumber rest) :
    readValue dialect depth fuel ((renderAt layout level document).toList ++ rest) = .ok (document, rest) := by
  cases document with
  | null => exact readValue_scalar layout level depth .null readable (by omega) follows
  | boolean value =>
      exact readValue_scalar layout level depth (.boolean value) readable (by omega) follows
  | whole value =>
      exact readValue_scalar layout level depth (.whole value) readable (by omega) follows
  | real value =>
      exact readValue_scalar layout level depth (.real value) readable (by omega) follows
  | string value => exact readValue_string layout level depth value (by omega) rest
  | array items =>
      obtain ⟨fuel, rfl⟩ : ∃ less, fuel = less + 1 := ⟨fuel - 1, by omega⟩
      rw [renderAt] at fueled ⊢
      cases items with
      | nil =>
          rw [renderItems, enclosed_nil]
          exact readValue_emptyArray readable.1
      | cons item others =>
          have starts := renderItems_startsValue layout (level + 1) others readable.2.1
          rw [renderItems, enclosed_cons, ← renderItems] at fueled ⊢
          simp only [List.append_assoc, show "[".toList = ['['] from rfl,
            show "]".toList = [']'] from rfl, List.cons_append, List.nil_append]
          refine readValue_array readable.1 (lineBreak_allGaps layout _) (starts.append _) ?_
          apply readItems_renderItems layout (level + 1) (depth + 1) fuel item others readable.2
          · simp only [List.length_append, show "[".toList.length = 1 from rfl,
              show "]".toList.length = 1 from rfl] at fueled
            omega
          · exact lineBreak_allGaps layout _
  | object members =>
      obtain ⟨fuel, rfl⟩ : ∃ less, fuel = less + 1 := ⟨fuel - 1, by omega⟩
      rw [renderAt] at fueled ⊢
      cases members with
      | nil =>
          rw [renderMembers, enclosed_nil]
          exact readValue_emptyObject readable.1
      | cons entry others =>
          obtain ⟨name, member⟩ := entry
          have starts := renderMembers_startsValue layout (level + 1) name member others
          rw [renderMembers, enclosed_cons, ← renderMembers] at fueled ⊢
          simp only [List.append_assoc, show "\x7b".toList = ['{'] from rfl,
            show "\x7d".toList = ['}'] from rfl, List.cons_append, List.nil_append]
          refine readValue_object readable.1 (lineBreak_allGaps layout _) (starts.append _) ?_
          apply readMembers_renderMembers layout (level + 1) (depth + 1) fuel [] name member others
            readable.2.1 readable.2.2
          · simp only [List.length_append, show "\x7b".toList.length = 1 from rfl,
              show "\x7d".toList.length = 1 from rfl] at fueled
            omega
          · exact lineBreak_allGaps layout _
termination_by fuel

theorem readItems_renderItems (layout : Layout) (level depth fuel : Nat) (item : Json)
    (others : List Json) (readable : ItemsReadable dialect depth (item :: others))
    (fueled : 2 * (String.intercalate (separator layout level)
      (renderItems layout level (item :: others))).toList.length + 1 < fuel)
    {gaps : List Char} (all : AllGaps gaps) (rest : List Char) :
    readItems dialect depth fuel ((String.intercalate (separator layout level)
        (renderItems layout level (item :: others))).toList ++ (gaps ++ ']' :: rest)) =
      .ok (item :: others, rest) := by
  obtain ⟨fuel, rfl⟩ : ∃ less, fuel = less + 1 := ⟨fuel - 1, by omega⟩
  cases others with
  | nil =>
      rw [renderItems, renderItems, String.intercalate_singleton] at fueled ⊢
      refine readItems_last ?_ all
      exact readValue_renderAt layout level depth fuel item readable.1 (by omega)
        (followsNumber_gaps all (followsNumber_cons (by decide) rest))
  | cons next others =>
      obtain ⟨breaks, separatorEq, breaksAll⟩ := separator_eq layout level
      have starts := renderItems_startsValue layout level others readable.2.1
      rw [renderItems, renderItems, String.intercalate_cons_cons, String.toList_append,
        String.toList_append, separatorEq, ← renderItems] at fueled ⊢
      simp only [List.length_append, List.length_cons] at fueled
      rw [List.append_assoc, List.append_assoc, List.cons_append]
      refine readItems_more ?_ breaksAll
        (stopsAt_of_startsValue (starts.append (gaps ++ ']' :: rest))) ?_
      · exact readValue_renderAt layout level depth fuel item readable.1 (by omega)
          (followsNumber_cons (by decide) _)
      · exact readItems_renderItems layout level depth fuel next others readable.2 (by omega) all rest
termination_by fuel

theorem readMembers_renderMembers (layout : Layout) (level depth fuel : Nat)
    (before : Entries Json) (name : String) (member : Json) (others : List (String × Json))
    (apart : ((before ++ (name, member) :: others).map Prod.fst).Nodup)
    (readable : MembersReadable dialect depth ((name, member) :: others))
    (fueled : 2 * (String.intercalate (separator layout level)
      (renderMembers layout level ((name, member) :: others))).toList.length + 1 < fuel)
    {gaps : List Char} (all : AllGaps gaps) (rest : List Char) :
    readMembers dialect depth fuel before ((String.intercalate (separator layout level)
        (renderMembers layout level ((name, member) :: others))).toList ++ (gaps ++ '}' :: rest)) =
      .ok (before ++ (name, member) :: others, rest) := by
  obtain ⟨fuel, rfl⟩ : ∃ less, fuel = less + 1 := ⟨fuel - 1, by omega⟩
  have fresh : name ∉ before.map Prod.fst := by
    intro found
    rw [List.map_append, List.map_cons, List.nodup_append] at apart
    exact apart.2.2 name found name List.mem_cons_self rfl
  cases others with
  | nil =>
      rw [renderMembers, renderMembers, String.intercalate_singleton, memberText_toList] at fueled ⊢
      rw [← Entries.put_of_fresh fresh]
      have starts := renderAt_startsValue layout level readable.1
      rw [List.append_assoc]
      refine readMembers_last (memberName_quotedText _ name
        (stopsAt_of_startsValue (starts.append _))) ?_ all
      exact readValue_renderAt layout level depth fuel member readable.1
        (by simp only [List.length_append] at fueled; omega)
        (followsNumber_gaps all (followsNumber_cons (by decide) rest))
  | cons next others =>
      obtain ⟨breaks, separatorEq, breaksAll⟩ := separator_eq layout level
      obtain ⟨nextName, nextMember⟩ := next
      have starts := renderAt_startsValue layout level readable.1
      have nextStarts := renderMembers_startsValue layout level nextName nextMember others
      rw [renderMembers, renderMembers, String.intercalate_cons_cons, String.toList_append,
        String.toList_append, separatorEq, ← renderMembers, memberText_toList] at fueled ⊢
      simp only [List.length_append, List.length_cons] at fueled
      simp only [List.append_assoc, List.cons_append]
      have read := readValue_renderAt layout level depth fuel member readable.1 (by omega)
        (followsNumber_cons (by decide : endsNumber ',' = true) (breaks ++ ((String.intercalate
          (separator layout level) (renderMembers layout level ((nextName, nextMember) :: others))
          ).toList ++ (gaps ++ '}' :: rest))))
      refine readMembers_more (memberName_quotedText _ name
        (stopsAt_of_startsValue (starts.append _))) read breaksAll
        (stopsAt_of_startsValue (nextStarts.append (gaps ++ '}' :: rest))) ?_
      · rw [Entries.put_of_fresh fresh]
        have readRest := readMembers_renderMembers layout level depth fuel
          (before ++ [(name, member)]) nextName nextMember others
          (by rw [List.append_assoc]; exact apart) readable.2 (by omega) all rest
        rw [List.append_assoc] at readRest
        exact readRest
termination_by fuel

end

end LoadScript.Json
