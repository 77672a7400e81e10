import LoadScript.Proofs.Curl.CommandWords
import LoadScript.Proofs.Curl.Folding
import LoadScript.Proofs.Curl.Quotes

/-!
Line breaks between the arguments of a command change nothing that is imported. In front of the argument of a
flag that is looked for in the lines as they are, they do.
-/

namespace LoadScript.Curl

open Text

variable {α : Type} {letterCase : FlagCase} {names : List String}
  {read? : List Char → Option (α × List Char)} {blank : Char} {rest : List Char}

theorem behindBlanks?_blank {other : Char} (ends : isBlank blank = true) (otherEnds : isBlank other = true)
    (behind : List Char) :
    (behindBlanks? (behind ++ [blank])).map List.isEmpty =
      (behindBlanks? (behind ++ [other])).map List.isEmpty := by
  cases behind with
  | nil => simp [behindBlanks?, ends, otherEnds]
  | cons first behind =>
      simp only [List.cons_append, behindBlanks?, dropWhile_extended]
      split
      · cases behind.dropWhile isBlank <;> simp [extended, ends, otherEnds]
      · rfl

/-- Whether an argument is still to come does not depend on which blank stands behind the flag. -/
theorem argument?_blank (flags : ∀ name ∈ names, IsFlag name) {other : Char} (ends : isBlank blank = true)
    (otherEnds : isBlank other = true) (text : List Char) :
    (argument? letterCase names (text ++ [blank])).map List.isEmpty =
      (argument? letterCase names (text ++ [other])).map List.isEmpty := by
  induction names with
  | nil => rfl
  | cons name names ih =>
      rw [List.forall_mem_cons] at flags
      rw [argument?_cons, argument?_cons, Option.map_or, Option.map_or, ih flags.2,
        dropFlag?_append flags.1 (by simp [isBoundary, ends]),
        dropFlag?_append flags.1 (by simp [isBoundary, otherEnds])]
      cases dropFlag? letterCase name text with
      | none => rfl
      | some behind =>
          simp only [Option.map_some, Option.bind_some, behindBlanks?_blank ends otherEnds]

theorem IsClosed.of_blank {argument : List Char} (closed : IsClosed (argument ++ [' '])) :
    IsClosed argument := by
  cases argument with
  | nil => trivial
  | cons first others =>
      intro quote
      have found := closed quote
      have other : first ≠ ' ' := by
        rintro rfl
        exact absurd quote (by decide)
      simpa [other] using found

theorem Completes.settled {text : List Char} (completes : Completes letterCase names text)
    (flags : ∀ name ∈ names, IsFlag name) (ends : isBlank blank = true)
    (reads : ∀ argument, IsClosed argument → Settled read? (blank :: rest) argument) :
    AtTokens (Settled (readBehind letterCase names read?) (blank :: rest)) true text := by
  refine AtTokens.imp (fun character inside complete => ?_) completes
  have here : argument? letterCase names (character :: inside ++ [' ']) ≠ some [] :=
    fun awaited => (complete [] awaited).1 rfl
  have there : argument? letterCase names (character :: inside ++ [blank]) ≠ some [] := by
    intro awaited
    have same := congrArg (Option.map List.isEmpty) awaited
    rw [argument?_blank flags ends (by decide : isBlank ' ' = true), Option.map_some,
      Option.map_eq_some_iff] at same
    obtain ⟨argument, read, empty⟩ := same
    exact here (by rw [read, List.isEmpty_iff.mp empty])
  have spaced := argument?_append_of_settled flags (by decide : isBoundary ' ' = true) [] here
  have goesOn := argument?_append_of_settled flags (by simp [isBoundary, ends]) rest there
  rw [Settled, readBehind, readBehind, goesOn]
  cases read : argument? letterCase names (character :: inside) with
  | none => rfl
  | some argument =>
      rw [read, Option.map_some] at spaced
      exact reads argument (complete _ spaced).2.of_blank

theorem isQuote_of_isBlank (ends : isBlank blank = true) : isQuote blank = false := by
  rw [← Bool.not_eq_true]
  exact fun quote => by simp [isBlank_of_isQuote quote] at ends

theorem quoted?_settled_of_closed (ends : isBlank blank = true) {argument : List Char}
    (closed : IsClosed argument) : Settled quoted? (blank :: rest) argument := by
  cases argument with
  | nil =>
      refine .of_none ?_ rfl
      rw [List.nil_append, quoted?, if_neg (by simp [isQuote_of_isBlank ends])]
  | cons first others => exact quoted?_settled fun quote => .inl (closed quote)

theorem quotedPair?_settled_of_closed (dropsBlanks : Bool) (ends : isBlank blank = true)
    {argument : List Char} (closed : IsClosed argument) :
    Settled (quotedPair? dropsBlanks) (blank :: rest) argument := by
  cases argument with
  | nil => exact .of_none (quotedPair?_of_not_quote (isQuote_of_isBlank ends) dropsBlanks) rfl
  | cons first others => exact quotedPair?_settled dropsBlanks fun quote => .inl (closed quote)

structure IsGap (gap : List Char) : Prop where
  starts : ∃ blank more, gap = blank :: more ∧ isBlank blank = true
  flagless : HasNoFlag true gap
  behind : startBehind false gap = true
  joined : ∃ blanks, blanks ≠ [] ∧ (∀ character ∈ blanks, isBlank character = true) ∧
    ∀ rest, joinLines (gap ++ rest) = blanks ++ joinLines rest

theorem ne_hyphen_of_isBlank (ends : isBlank blank = true) : blank ≠ '-' := by
  rintro rfl
  exact absurd ends (by decide)

theorem hasNoFlag_blanks {blanks : List Char} (all : ∀ character ∈ blanks, isBlank character = true)
    (atStart : Bool) : HasNoFlag atStart blanks := by
  refine .of_suffix fun inside within first => ?_
  have found := within.subset (List.mem_of_mem_head? first)
  exact ne_hyphen_of_isBlank (all '-' found) rfl

theorem startBehind_blanks {blanks : List Char} (spaced : blanks ≠ [])
    (all : ∀ character ∈ blanks, isBlank character = true) (atStart : Bool) :
    startBehind atStart blanks = true := by
  obtain ⟨before, last, rfl⟩ := List.eq_nil_or_concat blanks |>.resolve_left spaced
  rw [List.concat_eq_append] at all ⊢
  rw [startBehind_mark]
  exact all last (by simp)

theorem isGap_blanks {blanks : List Char} (spaced : blanks ≠ [])
    (all : ∀ character ∈ blanks, isBlank character = true) : IsGap blanks where
  starts := by
    obtain ⟨blank, more, rfl⟩ := List.exists_cons_of_ne_nil spaced
    exact ⟨blank, more, rfl, all blank List.mem_cons_self⟩
  flagless := hasNoFlag_blanks all true
  behind := startBehind_blanks spaced all false
  joined := by
    have plain : '\\' ∉ blanks := fun found => absurd (all '\\' found) (by decide)
    exact ⟨blanks, spaced, all, joinLines_plain plain⟩

theorem isBlank_indent (count : Nat) :
    ∀ character ∈ List.replicate count ' ', isBlank character = true := by
  intro character found
  rw [(List.mem_replicate.mp found).2]
  decide

theorem Stretch.isBlank_feed (stretch : Stretch) :
    ∀ character ∈ stretch.feed, isBlank character = true := by
  have carriage : ∀ character ∈ (if stretch.carriage then ['\r'] else []), isBlank character = true := by
    cases stretch.carriage <;> decide
  intro character found
  rcases List.mem_append.mp found with first | second
  · exact carriage character first
  · rcases List.mem_cons.mp second with rfl | behind
    · decide
    · exact isBlank_indent _ character behind

theorem Stretch.isGap_lineBreak (stretch : Stretch) : IsGap stretch.lineBreak where
  starts := ⟨' ', '\\' :: stretch.feed, rfl, by decide⟩
  flagless := by
    show HasNoFlag true (' ' :: '\\' :: stretch.feed)
    exact ⟨fun _ => by simp, fun _ => by simp, hasNoFlag_blanks stretch.isBlank_feed _⟩
  behind := by
    have spaced : stretch.feed ≠ [] := by simp [feed]
    exact startBehind_blanks spaced stretch.isBlank_feed _
  joined := by
    have plain : '\\' ∉ List.replicate stretch.indent ' ' := by simp
    have ended (rest : List Char) : joinLines ('\\' :: (stretch.feed ++ rest)) =
        ' ' :: joinLines (List.replicate stretch.indent ' ' ++ rest) := by
      rw [feed]
      cases stretch.carriage <;> simp [joinLines]
    refine ⟨List.replicate (stretch.indent + 2) ' ', by simp, isBlank_indent _, fun rest => ?_⟩
    show joinLines (' ' :: '\\' :: (stretch.feed ++ rest)) = _
    rw [joinLines_cons (by decide), ended, joinLines_plain plain]
    rfl

theorem MarkState.behind_joinLines (state : MarkState) (text : List Char) :
    state.behind (joinLines text) = state.behind text := by
  fun_induction joinLines text generalizing state with
  | case1 => rfl
  | case2 text ih =>
      have same : state.after ' ' = ((state.after '\\').after '\r').after '\n' := by
        cases state <;> decide
      show (state.after ' ').behind (joinLines text) =
        (((state.after '\\').after '\r').after '\n').behind text
      rw [ih, same]
  | case3 text ih =>
      have same : state.after ' ' = (state.after '\\').after '\n' := by
        cases state <;> decide
      show (state.after ' ').behind (joinLines text) = ((state.after '\\').after '\n').behind text
      rw [ih, same]
  | case4 first text _ _ ih => exact ih (state.after first)

section Spread

variable {gap : Stretch → List Char} {stretches : List Stretch} {last : List Char}

theorem spread_cons (gap : Stretch → List Char) (stretch : Stretch) (stretches : List Stretch)
    (last : List Char) : spread gap (stretch :: stretches) last =
      stretch.text ++ (gap stretch ++ spread gap stretches last) := by
  rw [spread, List.flatMap_cons, List.append_assoc, List.append_assoc]
  rfl

def ReadsClosed (read? : List Char → Option (α × List Char)) : Prop :=
  ∀ blank rest argument, isBlank blank = true → IsClosed argument → Settled read? (blank :: rest) argument

theorem findAll_gap (flags : ∀ name ∈ names, IsFlag name) {between : List Char} (isGap : IsGap between)
    (atStart : Bool) (rest : List Char) :
    findAll (readBehind letterCase names read?) atStart 0 (between ++ rest) =
      findAll (readBehind letterCase names read?) true 0 rest := by
  have behind : startBehind atStart between = true := by
    obtain ⟨blank, more, rfl, -⟩ := isGap.starts
    exact isGap.behind
  rw [findAll_pass ((isGap.flagless.of_start atStart).reads_nothing flags rest), behind]

theorem finds_spread (flags : ∀ name ∈ names, IsFlag name) (reads : ReadsClosed read?)
    (gaps : ∀ stretch ∈ stretches, IsGap (gap stretch))
    (completes : ∀ stretch ∈ stretches, Completes letterCase names stretch.text) :
    finds (readBehind letterCase names read?) (spread gap stretches last) =
      (stretches.flatMap fun stretch => finds (readBehind letterCase names read?) stretch.text) ++
        finds (readBehind letterCase names read?) last := by
  induction stretches with
  | nil => rfl
  | cons stretch stretches ih =>
      rw [List.forall_mem_cons] at gaps completes
      obtain ⟨blank, more, same, ends⟩ := gaps.1.starts
      have settled : AtTokens (Settled (readBehind letterCase names read?)
          (gap stretch ++ spread gap stretches last)) true stretch.text := by
        rw [same]
        exact completes.1.settled flags ends fun argument => reads _ _ argument ends
      have rest := ih gaps.2 completes.2
      rw [finds] at rest
      rw [spread_cons, List.flatMap_cons, finds, findAll_append settled (Nat.zero_le _),
        findAll_gap flags gaps.1, rest, List.append_assoc]
      rfl

theorem joinLines_text {stretch : Stretch} (whole : stretch.IsWhole) (rest : List Char) :
    joinLines (stretch.text ++ rest) = joinLines stretch.text ++ joinLines rest := by
  refine joinLines_append_of_ends (fun before last same => ?_) rest
  have ends := whole.ends last (by rw [same]; simp)
  refine ⟨ends.2, ?_⟩
  rintro rfl
  exact absurd ends.1 (by decide)

theorem wordsOf_spread (gaps : ∀ stretch ∈ stretches, IsGap (gap stretch))
    (whole : ∀ stretch ∈ stretches, stretch.IsWhole) :
    wordsOf (joinLines (spread gap stretches last)) =
      (stretches.flatMap fun stretch => wordsOf (joinLines stretch.text)) ++ wordsOf (joinLines last) := by
  induction stretches with
  | nil => rfl
  | cons stretch stretches ih =>
      rw [List.forall_mem_cons] at gaps whole
      obtain ⟨blanks, spaced, all, joined⟩ := gaps.1.joined
      rw [spread_cons, List.flatMap_cons, joinLines_text whole.1, joined, ← List.append_assoc,
        wordsOf_append_blanks spaced all,
        ih gaps.2 whole.2, List.append_assoc]

theorem quotedTexts_spread (gaps : ∀ stretch ∈ stretches, IsGap (gap stretch))
    (whole : ∀ stretch ∈ stretches, stretch.IsWhole) :
    quotedTexts 0 (joinLines (spread gap stretches last)) =
      (stretches.flatMap fun stretch => quotedTexts 0 (joinLines stretch.text)) ++
        quotedTexts 0 (joinLines last) := by
  induction stretches with
  | nil => rfl
  | cons stretch stretches ih =>
      rw [List.forall_mem_cons] at gaps whole
      obtain ⟨blanks, spaced, all, joined⟩ := gaps.1.joined
      have closes : MarkState.behind .outside (joinLines stretch.text) = .outside := by
        rw [MarkState.behind_joinLines]
        exact whole.1.marks
      have unquoted : IsUnquoted blanks := fun character found => isQuote_of_isBlank (all character found)
      rw [spread_cons, List.flatMap_cons, joinLines_text whole.1, joined, quotedTexts_append_of_closed closes,
        quotedTexts_unquoted unquoted, ih gaps.2 whole.2, List.append_assoc]

theorem urlOf_commandOf (text : List Char) : urlOf (commandOf text) = urlOf (joinLines text) := by
  rw [urlOf, urlOf, commandOf, quotedTexts_trimChars, wordsOf_trimChars]

theorem methodOf_commandOf (text : List Char) :
    methodOf (commandOf text) = ((methodIn? (wordsOf (joinLines text))).getD .get) := by
  rw [methodOf_eq, commandOf, wordsOf_trimChars]

theorem requestOf_spread {other : Stretch → List Char} (gaps : ∀ stretch ∈ stretches, IsGap (gap stretch))
    (others : ∀ stretch ∈ stretches, IsGap (other stretch))
    (whole : ∀ stretch ∈ stretches, stretch.IsWhole) :
    requestOf (spread gap stretches last) = requestOf (spread other stretches last) := by
  have words : wordsOf (joinLines (spread gap stretches last)) =
      wordsOf (joinLines (spread other stretches last)) := by
    rw [wordsOf_spread gaps whole, wordsOf_spread others whole]
  have quoted : quotedTexts 0 (joinLines (spread gap stretches last)) =
      quotedTexts 0 (joinLines (spread other stretches last)) := by
    rw [quotedTexts_spread gaps whole, quotedTexts_spread others whole]
  have found {α : Type} {letterCase : FlagCase} {names : List String}
      {read? : List Char → Option (α × List Char)} (flags : ∀ name ∈ names, IsFlag name)
      (reads : ReadsClosed read?)
      (completes : ∀ stretch ∈ stretches, Completes letterCase names stretch.text) :
      finds (readBehind letterCase names read?) (spread gap stretches last) =
        finds (readBehind letterCase names read?) (spread other stretches last) := by
    rw [finds_spread flags reads gaps completes, finds_spread flags reads others completes]
  have quotes : ReadsClosed quoted? := fun _ _ _ ends closed => quoted?_settled_of_closed ends closed
  have pairs (dropsBlanks : Bool) : ReadsClosed (quotedPair? dropsBlanks) :=
    fun _ _ _ ends closed => quotedPair?_settled_of_closed dropsBlanks ends closed
  have bares : ReadsClosed barePair? := fun _ _ _ ends _ => barePair?_settled ends _ _
  have headers := found header_flags (pairs true) fun stretch member => (whole stretch member).headers
  have users := found user_flags (pairs false) fun stretch member => (whole stretch member).users
  have bareUsers := found user_flags bares fun stretch member => (whole stretch member).users
  have rawBodies := found rawData_flags quotes fun stretch member => (whole stretch member).rawBodies
  have bodies := found data_flags quotes fun stretch member => (whole stretch member).bodies
  have forms := found form_flags quotes fun stretch member => (whole stretch member).forms
  rw [requestOf, requestOf, headersOf_eq, headersOf_eq, credentials?_eq, credentials?_eq, bodyOf_eq,
    bodyOf_eq, form?_eq, form?_eq, headers, users, bareUsers, rawBodies, bodies, forms,
    methodOf_commandOf, methodOf_commandOf, urlOf_commandOf, urlOf_commandOf, urlOf, urlOf, words, quoted]

/-- Breaking lines behind whole stretches changes nothing that is imported. -/
theorem importRequest_broken (whole : ∀ stretch ∈ stretches, stretch.IsWhole) {imported : Request}
    (read : (importRequest (String.ofList (spread Stretch.blanks stretches last))).map Logged.value =
      .ok imported) :
    (importRequest (String.ofList (spread Stretch.lineBreak stretches last))).map Logged.value =
      .ok imported := by
  have gaps : ∀ stretch ∈ stretches, IsGap stretch.blanks :=
    fun stretch member => isGap_blanks (whole stretch member).spaced (whole stretch member).blank
  have breaks : ∀ stretch ∈ stretches, IsGap stretch.lineBreak :=
    fun stretch _ => stretch.isGap_lineBreak
  rw [importRequest_eq_ok_iff, String.toList_ofList] at read ⊢
  refine ⟨?_, read.2.trans (requestOf_spread gaps breaks whole)⟩
  rw [commandOf, isCommand_trimChars, wordsOf_spread breaks whole, ← wordsOf_spread gaps whole,
    ← isCommand_trimChars]
  exact read.1

end Spread

def lettered : List Stretch := [
  ⟨"curl -X".toList, [' '], true, 2⟩, ⟨"put".toList, [' ', '\t'], false, 0⟩,
  ⟨"'http://h/letters' -H 'A: it is b'".toList, [' '], true, 4⟩, ⟨"-u ann:pw".toList, [' '], false, 4⟩]

theorem importRequest_broken_lettered :
    (importRequest (String.ofList (spread Stretch.lineBreak lettered "-d 'x=1'".toList))).map Logged.value =
      .ok (requestOf (spread Stretch.blanks lettered "-d 'x=1'".toList)) := by
  have whole : ∀ stretch ∈ lettered, stretch.IsWhole := by
    simp only [lettered, List.forall_mem_cons]
    refine ⟨?_, ?_, ?_, ?_, by simp⟩
    all_goals
      refine ⟨by decide, by decide, ?_, by decide, by decide, by decide, by decide, by decide, by decide⟩
      rintro _ ⟨⟩
      decide
  have read : (importRequest (String.ofList (spread Stretch.blanks lettered "-d 'x=1'".toList))).map
      Logged.value = .ok (requestOf (spread Stretch.blanks lettered "-d 'x=1'".toList)) := by
    rw [importRequest_eq_ok_iff, String.toList_ofList]
    exact ⟨by decide +kernel, rfl⟩
  exact importRequest_broken whole read

/-- In front of the argument of a header a line break loses the header, and so it does with users, bodies and
forms. -/
theorem importRequest_broken_loses :
    (importRequest "curl 'http://h/' -H 'A: b'").toOption.map (·.value.headers) = some [⟨"A", "b"⟩] ∧
    (importRequest "curl 'http://h/' -H \\\n 'A: b'").toOption.map (·.value.headers) = some [] ∧
    (importRequest "curl 'http://h/' -u a:b").toOption.map (·.value.credentials) =
      some (some ⟨"a", "b"⟩) ∧
    (importRequest "curl 'http://h/' -u \\\n a:b").toOption.map (·.value.credentials) = some none ∧
    (importRequest "curl 'http://h/' -d 'x'").toOption.map (·.value.body) = some "x" ∧
    (importRequest "curl 'http://h/' -d \\\n 'x'").toOption.map (·.value.body) = some "" ∧
    (importRequest "curl 'http://h/' -F 'k=v'").toOption.map (·.value.form.isSome) = some true ∧
    (importRequest "curl 'http://h/' -F \\\n 'k=v'").toOption.map (·.value.form.isSome) = some false := by
  decide +kernel

end LoadScript.Curl
