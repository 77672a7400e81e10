import LoadScript.Proofs.Curl.Bodies
import LoadScript.Proofs.Curl.LineBreaks
import LoadScript.Proofs.Curl.WrittenArguments

/-!
Malformed arguments of headers and users. Behind the URL of a command, any number of them may be put in, and
the same request is imported.
-/

namespace LoadScript.Curl

open Text

structure Argument.IsMalformed (argument : Argument) : Prop where
  flag : argument.flag = "-H" ∨ argument.flag = "-u"
  unquoted : IsUnquoted argument.text
  undivided : ':' ∉ argument.text
  unhyphened : '-' ∉ argument.text

variable {argument : Argument} {inserted : List Argument} {method url : List Char}

/-- Methods and URLs that a command can have in front of other arguments: without marks and flags, and a URL
that is one word. -/
structure IsAddress (method url : List Char) : Prop where
  methodUnquoted : IsUnquoted method
  methodFlagless : HasNoFlag true method
  http : startsWithHttp url = true
  solid : ∀ character ∈ url, isBlank character = false
  urlUnquoted : IsUnquoted url

theorem IsAddress.url_eq (address : IsAddress method url) : ∃ rest, url = "http".toList ++ rest := by
  obtain ⟨rest, dropped⟩ := Option.isSome_iff_exists.mp address.http
  exact ⟨rest, eq_append_of_dropStart? dropped⟩

theorem IsAddress.urlFlagless (address : IsAddress method url) : HasNoFlag true url := by
  obtain ⟨rest, same⟩ := address.url_eq
  have first : (url ++ []).head? ≠ some '-' := by
    rw [same]
    simp
  have flagless := AtTokens.of_word (fun inside => inside.head? ≠ some '-') address.solid first
  simpa [HasNoFlag] using flagless

/-! Nothing is found in them. -/

theorem hasNoFlag_of_not_mem {text : List Char} (absent : '-' ∉ text) (atStart : Bool) :
    HasNoFlag atStart text :=
  .of_suffix fun _ within first => absent (within.subset (List.mem_of_mem_head? first))

theorem Argument.IsMalformed.isPlain (malformed : argument.IsMalformed) : argument.IsPlain where
  solid := by
    rcases malformed.flag with flag | flag <;> rw [flag] <;> decide
  unquoted := malformed.unquoted
  flagless := hasNoFlag_of_not_mem malformed.unhyphened false

theorem pair?_undivided {text : List Char} (undivided : ':' ∉ text) (dropsBlanks : Bool) :
    pair? dropsBlanks text = none := by
  rw [pair?, cut?_eq_none_iff.mpr undivided]
  rfl

section Searches

variable {α : Type} {letterCase : FlagCase} {names : List String}
  {read? : List Char → Option (α × List Char)}

theorem findAll_inserted (flags : ∀ name ∈ names, IsFlag name) {value? : List Char → Option α}
    (reads : ∀ text rest, IsUnquoted text →
      read? ('\'' :: text ++ '\'' :: rest) = (value? text).map fun value => (value, rest))
    (malformed : ∀ argument ∈ inserted, argument.IsMalformed)
    (inert : ∀ argument ∈ inserted, takes letterCase names argument.flag.toList = true →
      value? argument.text = none) (rest : List Char) :
    findAll (readBehind letterCase names read?) false 0 (inserted.flatMap Argument.chars ++ rest) =
      findAll (readBehind letterCase names read?) false 0 rest := by
  induction inserted with
  | nil => rfl
  | cons argument inserted ih =>
      rw [List.forall_mem_cons] at malformed inert
      have nothing : (if takes letterCase names argument.flag.toList then value? argument.text else none) =
          none := by
        split
        · next taken => exact inert.1 taken
        · rfl
      rw [List.flatMap_cons, List.append_assoc, findAll_argument flags reads malformed.1.isPlain, nothing,
        ih malformed.2 inert.2]
      rfl

theorem finds_inserted (address : IsAddress method url) (letterCase : FlagCase)
    (flags : ∀ name ∈ names, IsFlag name) (other : takes letterCase names "--request".toList = false)
    {value? : List Char → Option α}
    (reads : ∀ text rest, IsUnquoted text →
      read? ('\'' :: text ++ '\'' :: rest) = (value? text).map fun value => (value, rest))
    (malformed : ∀ argument ∈ inserted, argument.IsMalformed)
    (inert : ∀ argument ∈ inserted, takes letterCase names argument.flag.toList = true →
      value? argument.text = none) (rest : List Char) :
    finds (readBehind letterCase names read?)
        (addressed method url ++ (inserted.flatMap Argument.chars ++ rest)) =
      finds (readBehind letterCase names read?) (addressed method url ++ rest) := by
  rw [finds, finds, findAll_addressed flags other address.methodFlagless address.urlFlagless,
    findAll_addressed flags other address.methodFlagless address.urlFlagless,
    findAll_inserted flags reads malformed inert]

end Searches

/-! Methods. -/

theorem takes_of_mark {mark : Char} (quote : isQuote mark = true) {letterCase : FlagCase}
    {names : List String} (flags : ∀ name ∈ names, IsFlag name) (before after : List Char) :
    takes letterCase names (before ++ mark :: after) = false := by
  rw [takes, List.any_eq_false]
  intro name member
  rw [dropFlag?_append (flags name member) (by simp [isBoundary, quote])]
  cases dropFlag? letterCase name before <;> simp

theorem takes_of_head {letterCase : FlagCase} {names : List String} (flags : ∀ name ∈ names, IsFlag name)
    {word : List Char} (other : word.head? ≠ some '-') : takes letterCase names word = false := by
  rw [takes, List.any_eq_false]
  intro name member
  cases dropped : dropFlag? letterCase name word with
  | none => simp
  | some behind => exact absurd (dropFlag?_hyphen (flags name member) dropped) other

theorem methodIn?_append {first : List (List Char)}
    (ends : ∀ last ∈ first.getLast?, takes .either ["--request", "-x"] last = false)
    (second : List (List Char)) : methodIn? (first ++ second) = (methodIn? first).or (methodIn? second) := by
  induction first with
  | nil => rfl
  | cons flag words ih =>
      cases words with
      | nil =>
          have unread := ends flag rfl
          simp [methodIn?, unread]
      | cons word words =>
          rw [List.cons_append, methodIn?, methodIn?, ih (by simpa using ends), Option.or_assoc]
          rfl

theorem methodIn?_eq_none {words : List (List Char)}
    (other : ∀ word ∈ words, takes .either ["--request", "-x"] word = false) : methodIn? words = none := by
  induction words with
  | nil => rfl
  | cons word words ih =>
      rw [List.forall_mem_cons] at other
      rw [methodIn?, other.1, ih other.2]
      rfl

/-- The words up to a mark, and those behind the blank that follows it, tell their methods apart. -/
theorem methodIn?_closed {mark blank : Char} (quote : isQuote mark = true) (ends : isBlank blank = true)
    (text rest : List Char) :
    methodIn? (wordsOf (text ++ mark :: blank :: rest)) =
      (methodIn? (wordsOf (text ++ [mark]))).or (methodIn? (wordsOf rest)) := by
  have split : text ++ mark :: blank :: rest = (text ++ [mark]) ++ blank :: rest := by simp
  rw [split, wordsOf_append ends, methodIn?_append]
  obtain ⟨words, word, same⟩ := getLast?_wordsOf_concat (isBlank_of_isQuote quote) text
  rw [same]
  intro last found
  have lastEq : word ++ [mark] = last := by simpa using found
  rw [← lastEq]
  exact takes_of_mark quote method_flags word []

theorem joinLines_mark {mark : Char} (quote : isQuote mark = true) (text rest : List Char) :
    joinLines (text ++ mark :: rest) = joinLines text ++ mark :: joinLines rest := by
  obtain ⟨feed, carriage, backslash⟩ := plain_of_isQuote quote
  rw [joinLines_append feed carriage, joinLines_cons backslash]

theorem joinLines_argument (malformed : argument.IsMalformed) (rest : List Char) :
    joinLines (argument.chars ++ rest) =
      ' ' :: (argument.flag.toList ++ ' ' :: '\'' :: joinLines argument.text) ++ '\'' :: joinLines rest := by
  have flag : '\\' ∉ ' ' :: argument.flag.toList ++ [' '] := by
    rcases malformed.flag with flag | flag <;> rw [flag] <;> decide
  have chars : argument.chars ++ rest =
      (' ' :: argument.flag.toList ++ [' ']) ++ ('\'' :: (argument.text ++ '\'' :: rest)) := by
    simp [Argument.chars]
  rw [chars, joinLines_plain flag, joinLines_cons (by decide), joinLines_mark (by decide)]
  simp

theorem methodIn?_argument (malformed : argument.IsMalformed) :
    methodIn? (wordsOf (argument.flag.toList ++ ' ' :: '\'' :: joinLines argument.text ++ ['\''])) = none := by
  have flag : ∀ word ∈ wordsOf argument.flag.toList, takes .either ["--request", "-x"] word = false := by
    rcases malformed.flag with flag | flag <;> rw [flag] <;> decide
  have unhyphened : '-' ∉ '\'' :: joinLines argument.text ++ ['\''] := by
    intro found
    rcases List.mem_append.mp found with inside | last
    · rcases List.mem_cons.mp inside with mark | joined
      · exact absurd mark (by decide)
      · rcases mem_joinLines joined with written | blank
        · exact malformed.unhyphened written
        · exact absurd blank (by decide)
    · exact absurd (List.mem_singleton.mp last) (by decide)
  refine methodIn?_eq_none ?_
  rw [List.append_assoc, List.cons_append, wordsOf_append (by decide), List.forall_mem_append]
  refine ⟨flag, fun word member => takes_of_head method_flags fun first => unhyphened ?_⟩
  exact wordsOf_subset _ word member (List.mem_of_mem_head? first)

theorem methodIn?_inserted (malformed : ∀ argument ∈ inserted, argument.IsMalformed)
    (text rest : List Char) :
    methodIn? (wordsOf (text ++ '\'' :: joinLines (inserted.flatMap Argument.chars ++ ' ' :: rest))) =
      methodIn? (wordsOf (text ++ '\'' :: joinLines (' ' :: rest))) := by
  induction inserted generalizing text with
  | nil => rfl
  | cons argument inserted ih =>
      rw [List.forall_mem_cons] at malformed
      rw [List.flatMap_cons, List.append_assoc, joinLines_argument malformed.1, List.cons_append,
        methodIn?_closed (by decide) (by decide), ih malformed.2, joinLines_cons (by decide),
        methodIn?_closed (by decide) (by decide), methodIn?_closed (by decide) (by decide),
        methodIn?_argument malformed.1, Option.none_or]

/-! Requests. -/

theorem addressed_eq (method url : List Char) :
    addressed method url = "curl --request ".toList ++ method ++ [' '] ++ '\'' :: (url ++ ['\'']) := by
  have front : "curl --request ".toList = "curl ".toList ++ ("--request".toList ++ [' ']) := by decide
  unfold addressed
  rw [front, marked]
  generalize "curl ".toList = program, "--request".toList = flag
  simp

theorem joinLines_addressed (address : IsAddress method url) (rest : List Char) :
    joinLines (addressed method url ++ rest) =
      joinLines ("curl --request ".toList ++ method ++ [' ']) ++ '\'' :: url ++ '\'' :: joinLines rest := by
  have noFeed : '\n' ∉ url := fun found => absurd (address.solid '\n' found) (by decide)
  have chars : addressed method url ++ rest =
      ("curl --request ".toList ++ method ++ [' ']) ++ '\'' :: (url ++ '\'' :: rest) := by
    simp only [addressed_eq, List.append_assoc, List.cons_append, List.nil_append]
  have mark (text rest : List Char) :
      joinLines (text ++ '\'' :: rest) = joinLines text ++ '\'' :: joinLines rest :=
    joinLines_mark (by decide) text rest
  rw [chars, mark, mark, joinLines_of_noFeed noFeed]
  simp

theorem urlOf_addressed (address : IsAddress method url) (rest : List Char) :
    urlOf (commandOf (addressed method url ++ rest)) =
      urlOf (joinLines ("curl --request ".toList ++ method ++ [' ']) ++ '\'' :: url ++ ['\'']) := by
  have unquoted : IsUnquoted ("curl --request ".toList ++ method ++ [' ']) := by
    have start : IsUnquoted "curl --request ".toList := by decide
    intro character found
    rcases List.mem_append.mp found with inside | last
    · exact (List.mem_append.mp inside).elim (start character) (address.methodUnquoted character)
    · rw [List.mem_singleton.mp last]
      decide
  have nonempty : url ≠ [] := by
    obtain ⟨rest, same⟩ := address.url_eq
    simp [same]
  have quoted : url ∈ quotedTexts 0
      (joinLines ("curl --request ".toList ++ method ++ [' ']) ++ '\'' :: url ++ ['\'']) := by
    rw [List.append_assoc, quotedTexts_unquoted (isUnquoted_joinLines unquoted),
      quotedTexts_quoted (by decide) (by decide) address.urlUnquoted nonempty]
    exact List.mem_cons_self
  have closed : joinLines (addressed method url ++ rest) =
      (joinLines ("curl --request ".toList ++ method ++ [' ']) ++ '\'' :: url ++ ['\'']) ++
        joinLines rest := by
    rw [joinLines_addressed address]
    simp
  rw [urlOf_commandOf, closed, urlOf_append quoted address.http]

theorem isCommand_addressed (method url rest : List Char) :
    isCommand (commandOf (addressed method url ++ rest)) = true := by
  have start : '\\' ∉ "curl ".toList := by decide
  unfold addressed
  rw [commandOf, isCommand_trimChars, List.append_assoc, joinLines_plain start]
  exact congrArg (fun words => (words.head?.map isCommand).getD false)
    (wordsOf_append (by decide : isBlank ' ' = true) "curl".toList _)

theorem requestOf_inserted (address : IsAddress method url)
    (malformed : ∀ argument ∈ inserted, argument.IsMalformed) (rest : List Char) :
    requestOf (addressed method url ++ (inserted.flatMap Argument.chars ++ ' ' :: rest)) =
      requestOf (addressed method url ++ ' ' :: rest) := by
  have undivided (dropsBlanks : Bool) : ∀ argument ∈ inserted, pair? dropsBlanks argument.text = none :=
    fun argument member => pair?_undivided (malformed argument member).undivided dropsBlanks
  have other (letterCase : FlagCase) (names : List String)
      (header : takes letterCase names "-H".toList = false)
      (user : takes letterCase names "-u".toList = false) : ∀ argument ∈ inserted,
      takes letterCase names argument.flag.toList = true → some argument.text = none := by
    intro argument member taken
    rcases (malformed argument member).flag with flag | flag
    · rw [flag, header] at taken
      cases taken
    · rw [flag, user] at taken
      cases taken
  have quotes (text rest : List Char) (unquoted : IsUnquoted text) :
      quoted? ('\'' :: text ++ '\'' :: rest) = (some text).map fun value => (value, rest) :=
    quoted?_mark (by decide) unquoted rest
  have pairs (dropsBlanks : Bool) (text rest : List Char) (unquoted : IsUnquoted text) :
      quotedPair? dropsBlanks ('\'' :: text ++ '\'' :: rest) =
        (pair? dropsBlanks text).map fun value => (value, rest) :=
    quotedPair?_mark (by decide) unquoted dropsBlanks rest
  have bares (text rest : List Char) (_ : IsUnquoted text) :
      barePair? ('\'' :: text ++ '\'' :: rest) = none.map fun value => (value, rest) :=
    barePair?_mark (by decide) (text ++ '\'' :: rest)
  have headers := finds_inserted address .exact header_flags (by decide) (pairs true) malformed
    (fun argument member _ => undivided true argument member) (' ' :: rest)
  have users := finds_inserted address .exact user_flags (by decide) (pairs false) malformed
    (fun argument member _ => undivided false argument member) (' ' :: rest)
  have bareUsers := finds_inserted address .exact user_flags (by decide) bares malformed
    (fun _ _ _ => rfl) (' ' :: rest)
  have rawBodies := finds_inserted address .either rawData_flags (by decide) quotes malformed
    (other .either ["--data-raw"] (by decide) (by decide)) (' ' :: rest)
  have bodies := finds_inserted address .either data_flags (by decide) quotes malformed
    (other .either ["--data", "-d"] (by decide) (by decide)) (' ' :: rest)
  have forms := finds_inserted address .exact form_flags (by decide) quotes malformed
    (other .exact ["--form", "-F"] (by decide) (by decide)) (' ' :: rest)
  have methods : methodOf (commandOf
        (addressed method url ++ (inserted.flatMap Argument.chars ++ ' ' :: rest))) =
      methodOf (commandOf (addressed method url ++ ' ' :: rest)) := by
    rw [methodOf_commandOf, methodOf_commandOf, joinLines_addressed address, joinLines_addressed address,
      methodIn?_inserted malformed]
  rw [requestOf, requestOf, headersOf_eq, headersOf_eq, credentials?_eq, credentials?_eq, bodyOf_eq,
    bodyOf_eq, form?_eq, form?_eq, headers, users, bareUsers, rawBodies, bodies, forms, methods,
    urlOf_addressed address, urlOf_addressed address]

def inserting (method url : String) (inserted : List Argument) (rest : String) : String :=
  "curl --request " ++ method ++ " '" ++ url ++ "'" ++
    String.ofList (inserted.flatMap Argument.chars) ++ " " ++ rest

theorem inserting_toList (method url : String) (inserted : List Argument) (rest : String) :
    (inserting method url inserted rest).toList =
      addressed method.toList url.toList ++ (inserted.flatMap Argument.chars ++ ' ' :: rest.toList) := by
  have opening : " '".toList = [' ', '\''] := by decide
  unfold inserting
  simp only [String.toList_append, String.toList_ofList, opening, addressed_eq, List.append_assoc,
    List.cons_append, List.nil_append]
  rfl

/-- Behind the URL of a command, malformed arguments of headers and users change nothing that is imported. -/
theorem importRequest_inserting {method url : String} (address : IsAddress method.toList url.toList)
    {inserted : List Argument} (malformed : ∀ argument ∈ inserted, argument.IsMalformed) (rest : String) :
    ∃ imported, importRequest (inserting method url [] rest) = .ok imported ∧
      importRequest (inserting method url inserted rest) = .ok imported := by
  have recognised (inserted : List Argument) :
      isCommand (commandOf (inserting method url inserted rest).toList) = true := by
    rw [inserting_toList]
    exact isCommand_addressed _ _ _
  have same : requestOf (inserting method url inserted rest).toList =
      requestOf (inserting method url [] rest).toList := by
    rw [inserting_toList, inserting_toList]
    exact requestOf_inserted address malformed rest.toList
  refine ⟨_, importRequest_of_isCommand (recognised []), ?_⟩
  rw [importRequest_of_isCommand (recognised inserted), same]

/-- A user without a password and a header without a colon, in front of arguments that are whole. -/
theorem importRequest_inserting_login :
    ∃ imported,
      importRequest "curl --request POST 'http://h/login' --header 'A: b' --user 'ann:pw' --data 'c'" =
        .ok imported ∧
      importRequest
        "curl --request POST 'http://h/login' -u 'ann' -H 'X Trace' -H '' --header 'A: b' --user 'ann:pw' --data 'c'" =
        .ok imported ∧
      imported.value.headers = [⟨"A", "b"⟩] ∧ imported.value.credentials = some ⟨"ann", "pw"⟩ := by
  have address : IsAddress "POST".toList "http://h/login".toList :=
    ⟨by decide, by decide, by decide, by decide, by decide⟩
  have malformed : ∀ argument ∈ [⟨"-u", "ann".toList⟩, ⟨"-H", "X Trace".toList⟩, ⟨"-H", []⟩],
      Argument.IsMalformed argument := by
    simp only [List.forall_mem_cons]
    exact ⟨⟨.inr rfl, by decide, by decide, by decide⟩, ⟨.inl rfl, by decide, by decide, by decide⟩,
      ⟨.inl rfl, by decide, by decide, by decide⟩, by simp⟩
  obtain ⟨imported, read, inserted⟩ :=
    importRequest_inserting address malformed "--header 'A: b' --user 'ann:pw' --data 'c'"
  refine ⟨imported, read, inserted, ?_⟩
  have value := (importRequest_eq_ok_iff.mp (congrArg (Except.map Logged.value) read)).2
  rw [value]
  decide +kernel

end LoadScript.Curl
