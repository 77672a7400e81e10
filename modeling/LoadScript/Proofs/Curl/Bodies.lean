import LoadScript.Proofs.Curl.CommandWords
import LoadScript.Proofs.Curl.Folding
import LoadScript.Proofs.Curl.Quotes
import LoadScript.Proofs.Curl.Requests

/-!
A raw body behind a command: what is imported apart from the body does not depend on it, if no search finds
anything in it.
-/

namespace LoadScript.Curl

open Text

variable {α : Type} {letterCase : FlagCase} {names : List String}
  {read? : List Char → Option (α × List Char)} {body : List Char}

def bodyOpening : List Char := ' ' :: "--data-raw '".toList

def IgnoresBody (read? : List Char → Option (α × List Char)) : Prop :=
  ∀ before body, IsUnquoted body → Settled read? (body ++ ['\'']) (before ++ "--data-raw '".toList)

theorem IgnoresBody.of_blank (ends : ∀ text rest, Settled read? (' ' :: rest) text) :
    IgnoresBody read? := by
  intro before body _
  have split : before ++ "--data-raw '".toList = (before ++ "--data-raw".toList) ++ ' ' :: ['\''] := by simp
  rw [split]
  exact settled_of_blank ends _ _ _

theorem IgnoresBody.of_mark
    (reads : ∀ (mark : Char) (text rest : List Char), (isQuote mark = true → mark ∈ text ∨ mark ∉ rest) →
      Settled read? rest (mark :: text)) : IgnoresBody read? := by
  intro before body unquoted
  -- The opening mark closes what an apostrophe opened before, and nothing closes a double quote.
  have closed (first : Char) (text : List Char) (quote : isQuote first = true) :
      first ∈ text ++ ['\''] ∨ first ∉ body ++ ['\''] := by
    by_cases apostrophe : first = '\''
    · exact .inl (by simp [apostrophe])
    · exact .inr (by simp [apostrophe, unquoted.not_mem quote])
  cases before with
  | nil => exact reads '-' ("-data-raw ".toList ++ ['\'']) _ (closed '-' _)
  | cons first before =>
      have split : first :: before ++ "--data-raw '".toList =
          first :: (before ++ "--data-raw ".toList ++ ['\'']) := by simp
      rw [split]
      exact reads first _ _ (closed first _)

theorem ignoresBody_quoted : IgnoresBody quoted? :=
  .of_mark fun _ _ _ => quoted?_settled

theorem ignoresBody_quotedPair (dropsBlanks : Bool) : IgnoresBody (quotedPair? dropsBlanks) :=
  .of_mark fun _ _ _ => quotedPair?_settled dropsBlanks

theorem ignoresBody_barePair : IgnoresBody barePair? :=
  .of_blank (barePair?_settled (by decide))

theorem ignoresBody_method : IgnoresBody methodName? :=
  .of_blank (methodName?_settled (by decide))

theorem extended_flag (rest before : List Char) :
    extended ("--data-raw '".toList ++ rest) before = before ++ "--data-raw '".toList ++ rest := by
  cases before with
  | nil =>
      have hyphen : "--data-raw '".toList = '-' :: "-data-raw '".toList := by decide
      have stops : StopsAt isBlank ("--data-raw '".toList ++ rest) := by
        rw [hyphen, List.cons_append, stopsAt_cons]
        decide
      rw [extended, dropWhile_of_stopsAt stops, List.nil_append]
  | cons first before => rw [extended, List.append_assoc]

theorem readBehind_bodyOpening (flags : ∀ name ∈ names, IsFlag name) (inside rest : List Char) :
    readBehind letterCase names read? (inside ++ bodyOpening ++ rest) =
      (argument? letterCase names (inside ++ [' '])).bind fun before =>
        read? (before ++ "--data-raw '".toList ++ rest) := by
  have text : inside ++ bodyOpening ++ rest = inside ++ ' ' :: ("--data-raw '".toList ++ rest) :=
    List.append_assoc _ _ _
  rw [readBehind, text, argument?_append flags (by decide), Option.bind_map]
  cases argument? letterCase names (inside ++ [' ']) with
  | none => rfl
  | some before => simp only [Option.bind_some, Function.comp_apply, extended_flag]

theorem settled_bodyOpening (flags : ∀ name ∈ names, IsFlag name) (ignores : IgnoresBody read?)
    (unquoted : IsUnquoted body) (inside : List Char) :
    Settled (readBehind letterCase names read?) (body ++ ['\'']) (inside ++ bodyOpening) := by
  have alone : readBehind letterCase names read? (inside ++ bodyOpening ++ []) = _ :=
    readBehind_bodyOpening flags inside []
  rw [List.append_nil] at alone
  rw [Settled, readBehind_bodyOpening flags, alone]
  cases argument? letterCase names (inside ++ [' ']) with
  | none => rfl
  | some before =>
      rw [Option.bind_some, Option.bind_some, List.append_nil]
      exact ignores before body unquoted

theorem bodyOpening_reads_nothing (flags : ∀ name ∈ names, IsFlag name)
    (other : takes letterCase names "--data-raw".toList = false) (atStart : Bool) :
    AtTokens (fun inside => ∀ rest, readBehind letterCase names read? (inside ++ rest) = none) atStart
      bodyOpening := by
  have flag (rest : List Char) :
      readBehind letterCase names read? ("--data-raw".toList ++ [' ', '\''] ++ rest) = none := by
    rw [readBehind, List.append_assoc, List.cons_append, argument?_word flags (by decide) (by decide), other]
    rfl
  have start := AtTokens.of_word
    (fun inside => ∀ rest, readBehind letterCase names read? (inside ++ rest) = none) (by decide) flag
  have mark : HasNoFlag false [' ', '\''] := by decide
  have split : bodyOpening = ' ' :: ("--data-raw".toList ++ [' ', '\'']) := by decide
  have begins : isBlank ' ' = true := by decide
  rw [split]
  refine ⟨fun _ _ => readBehind_of_head flags (by simp), ?_⟩
  rw [begins]
  exact AtTokens.append_iff.mpr ⟨start, mark.imp fun _ _ other _ => readBehind_of_head flags other⟩

def bodied (start body : List Char) : List Char := start ++ bodyOpening ++ (body ++ ['\''])

theorem withBody_toList (command body : String) :
    (withBody command body).toList = bodied command.toList body.toList := by
  rw [withBody, String.toList_append, String.toList_append, String.toList_append, List.append_assoc]
  rfl

/-- Where a body holds nothing to find, a search finds what it finds without the body. -/
theorem finds_bodied (letterCase : FlagCase) (flags : ∀ name ∈ names, IsFlag name)
    (ignores : IgnoresBody read?) (other : takes letterCase names "--data-raw".toList = false)
    (unquoted : IsUnquoted body)
    (inert : ReadsNothing (readBehind letterCase names read?) false (body ++ ['\''])) (start : List Char) :
    finds (readBehind letterCase names read?) (bodied start body) =
      finds (readBehind letterCase names read?) (start ++ bodyOpening) := by
  have settled : AtTokens (Settled (readBehind letterCase names read?) (body ++ ['\''])) true
      (start ++ bodyOpening) := by
    refine AtTokens.append_iff.mpr ⟨.of_suffix fun inside _ => ?_, ?_⟩
    · exact settled_bodyOpening flags ignores unquoted inside
    have nothing : AtTokens (fun inside => ∀ rest,
        readBehind letterCase names read? (inside ++ rest) = none) (startBehind true start) bodyOpening :=
      bodyOpening_reads_nothing flags other _
    refine nothing.imp fun character inside nothing => .of_none (nothing _) ?_
    simpa using nothing []
  have behind : startBehind true (start ++ bodyOpening) = false := by
    rw [startBehind_append]
    rfl
  rw [finds, bodied, findAll_append settled (Nat.zero_le _), behind, findAll_eq_nil inert, List.append_nil]
  rfl

theorem readsNothing_closing (flags : ∀ name ∈ names, IsFlag name)
    (closes : ∀ argument, read? argument = none → read? (argument ++ ['\'']) = none)
    (inert : ReadsNothing (readBehind letterCase names read?) false body) :
    ReadsNothing (readBehind letterCase names read?) false (body ++ ['\'']) := by
  refine AtTokens.append_iff.mpr ⟨inert.imp fun character inside nothing => ?_, ?_⟩
  · rw [readBehind, argument?_append_mark flags (by decide), Option.bind_map]
    rw [readBehind] at nothing
    cases read : argument? letterCase names (character :: inside) with
    | none => rfl
    | some argument =>
        rw [read] at nothing
        exact closes argument nothing
  · exact ⟨fun _ => readBehind_of_head flags (by simp), trivial⟩

theorem readsNothing_of_unquoted (flags : ∀ name ∈ names, IsFlag name)
    (quotes : ∀ argument, IsUnquoted argument → read? (argument ++ ['\'']) = none)
    (unquoted : IsUnquoted body) :
    ReadsNothing (readBehind letterCase names read?) false (body ++ ['\'']) := by
  refine AtTokens.append_iff.mpr ⟨.of_suffix fun inside within => ?_, ?_⟩
  · rw [readBehind, argument?_append_mark flags (by decide), Option.bind_map]
    cases read : argument? letterCase names inside with
    | none => rfl
    | some argument =>
        have part := (argument?_suffix read).trans within
        exact quotes argument fun character found => unquoted character (part.subset found)
  · exact ⟨fun _ => readBehind_of_head flags (by simp), trivial⟩

theorem quoted?_closing {argument : List Char} (unquoted : IsUnquoted argument) :
    quoted? (argument ++ ['\'']) = none := by
  cases argument with
  | nil => rfl
  | cons first argument =>
      rw [List.cons_append, quoted?, if_neg (by simp [unquoted first List.mem_cons_self])]

theorem quotedPair?_closing (dropsBlanks : Bool) {argument : List Char} (unquoted : IsUnquoted argument) :
    quotedPair? dropsBlanks (argument ++ ['\'']) = none := by
  cases argument with
  | nil => rfl
  | cons first argument => exact quotedPair?_of_not_quote (unquoted first List.mem_cons_self) dropsBlanks

theorem methodName?_closing {argument : List Char} (unread : methodName? argument = none) :
    methodName? (argument ++ ['\'']) = Option.none := by
  cases argument with
  | nil => decide
  | cons first argument =>
      rw [methodName?_append (by decide) (.inl (by simp)), unread]
      rfl

theorem barePair?_closing {argument : List Char} (unread : barePair? argument = none) :
    barePair? (argument ++ ['\'']) = Option.none := by
  rcases exists_run isBareKeyPart argument with whole | ⟨key, stop, value, rfl, plain, stops⟩
  · exact barePair?_none whole (by simp [isBareKeyPart, isQuote]) (by simp)
  · by_cases colon : stop = ':'
    · subst colon
      rw [barePair?_colon plain] at unread
      cases unread
    · rw [List.append_assoc]
      exact barePair?_none plain (stopsAt_cons.mpr stops) (by simp [colon])

theorem headersOf_bodied (unquoted : IsUnquoted body) (start : List Char) :
    headersOf (bodied start body) = headersOf (start ++ bodyOpening) := by
  have same := finds_bodied .exact header_flags (ignoresBody_quotedPair true) (by decide) unquoted
    (readsNothing_of_unquoted header_flags (fun _ => quotedPair?_closing true) unquoted) start
  rw [headersOf_eq, headersOf_eq, same]

theorem form?_bodied (unquoted : IsUnquoted body) (start : List Char) :
    form? (bodied start body) = form? (start ++ bodyOpening) := by
  have same := finds_bodied .exact form_flags ignoresBody_quoted (by decide) unquoted
    (readsNothing_of_unquoted form_flags (fun _ => quoted?_closing) unquoted) start
  rw [form?_eq, form?_eq, same]

theorem credentials?_bodied (unquoted : IsUnquoted body)
    (inert : ReadsNothing (readBehind .exact ["--user", "-u"] barePair?) false body) (start : List Char) :
    credentials? (bodied start body) = credentials? (start ++ bodyOpening) := by
  have quoted := finds_bodied .exact user_flags (ignoresBody_quotedPair false) (by decide) unquoted
    (readsNothing_of_unquoted user_flags (fun _ => quotedPair?_closing false) unquoted) start
  have bare := finds_bodied .exact user_flags ignoresBody_barePair (by decide) unquoted
    (readsNothing_closing user_flags (fun _ => barePair?_closing) inert) start
  rw [credentials?_eq, credentials?_eq, quoted, bare]

theorem methodOf_bodied (unquoted : IsUnquoted body)
    (inert : ReadsNothing (readBehind .either ["--request", "-x"] methodName?) false body)
    (start : List Char) : methodOf (bodied start body) = methodOf (start ++ bodyOpening) := by
  have same := finds_bodied .either method_flags ignoresBody_method (by decide) unquoted
    (readsNothing_closing method_flags (fun _ => methodName?_closing) inert) start
  rw [methodOf_eq_finds, methodOf_eq_finds, same]

theorem findAll_ownBody (unquoted : IsUnquoted body) (atStart : Bool) :
    findAll (readBehind .either ["--data-raw"] quoted?) atStart 0 (bodyOpening ++ (body ++ ['\''])) =
      [body] := by
  have flag : takes .either ["--data-raw"] "--data-raw".toList = true := by decide
  have read : readBehind .either ["--data-raw"] quoted?
      ("--data-raw".toList ++ ' ' :: ('\'' :: body ++ ['\'']) ++ []) = some (body, []) := by
    rw [readBehind, List.append_nil, argument?_word rawData_flags (by decide) (by decide), flag]
    have quote : isQuote '\'' = true := by decide
    exact quoted?_mark quote unquoted []
  have blank (rest : List Char) : AtTokens (fun inside =>
      readBehind .either ["--data-raw"] quoted? (inside ++ rest) = none) atStart [' '] :=
    ⟨fun _ => readBehind_of_head rawData_flags (by simp), trivial⟩
  have split : bodyOpening ++ (body ++ ['\'']) =
      [' '] ++ ("--data-raw".toList ++ ' ' :: ('\'' :: body ++ ['\'']) ++ []) := by
    simp [bodyOpening]
  have begins : startBehind atStart [' '] = true := by
    cases atStart <;> decide
  rw [split, findAll_pass (blank _), begins, findAll_hit (by simp) read]
  rfl

/-- The body behind the last flag is imported, unless the same thing stands before any body. -/
theorem bodyOf_bodied {first second : List Char} (firstUnquoted : IsUnquoted first)
    (secondUnquoted : IsUnquoted second) (start : List Char) :
    bodyOf (bodied start first) = bodyOf (bodied start second) ∨
      (bodyOf (bodied start first) = String.ofList (trimChars first) ∧
        bodyOf (bodied start second) = String.ofList (trimChars second)) := by
  have alone {body : List Char} (unquoted : IsUnquoted body) (inside : List Char) :
      (readBehind .either ["--data-raw"] quoted? (inside ++ (bodyOpening ++ (body ++ ['\''])))).map
        Prod.fst = (readBehind .either ["--data-raw"] quoted? (inside ++ bodyOpening)).map Prod.fst := by
    rw [← List.append_assoc, settled_bodyOpening rawData_flags ignoresBody_quoted unquoted inside,
      Option.map_map]
    rfl
  rw [bodied, bodied, List.append_assoc, List.append_assoc]
  rcases head?_findAll_append (.of_suffix fun inside _ =>
      (alone firstUnquoted inside).trans (alone secondUnquoted inside).symm) with
    ⟨found, one, other⟩ | ⟨one, other⟩
  · exact .inl ((bodyOf_of_raw one).trans (bodyOf_of_raw other).symm)
  · rw [findAll_ownBody firstUnquoted] at one
    rw [findAll_ownBody secondUnquoted] at other
    exact .inr ⟨bodyOf_of_raw (congrArg List.head? one), bodyOf_of_raw (congrArg List.head? other)⟩

theorem urlOf_append {text url : List Char} (quoted : url ∈ quotedTexts 0 text)
    (http : startsWithHttp url = true) (rest : List Char) : urlOf (text ++ rest) = urlOf text := by
  obtain ⟨others, goesOn, -⟩ := quotedTexts_append (Nat.zero_le text.length) rest
  cases texts : quotedTexts 0 text with
  | nil =>
      rw [texts] at quoted
      cases quoted
  | cons first later =>
      rw [texts] at goesOn quoted
      obtain ⟨found, search⟩ : ∃ found, (first :: later).find? startsWithHttp = some found := by
        rw [← Option.isSome_iff_exists, List.find?_isSome]
        exact ⟨url, quoted, http⟩
      rw [urlOf, urlOf, goesOn, texts, List.cons_append]
      simp only
      rw [← List.cons_append, List.find?_append, search]
      rfl

theorem commandOf_bodied {start : List Char} (shown : commandOf start ≠ []) :
    ∃ tail, (∀ character ∈ tail, isBlank character = true) ∧
      ∀ body, commandOf (bodied start body) = bodied (commandOf start ++ tail) (joinLines body) := by
  obtain ⟨tail, whole, blanks⟩ := exists_dropped_end isBlank ((joinLines start).dropWhile isBlank)
  have same : commandOf start ++ tail = (joinLines start).dropWhile isBlank := whole
  have kept : ((joinLines start).dropWhile isBlank).isEmpty = false := by
    rw [← same]
    simp [shown]
  have flag : joinLines " --data-raw ".toList = " --data-raw ".toList :=
    joinLines_of_noFeed (by decide)
  have front : (joinLines (start ++ " --data-raw ".toList)).dropWhile isBlank =
      commandOf start ++ tail ++ " --data-raw ".toList := by
    show (joinLines (start ++ ' ' :: "--data-raw ".toList)).dropWhile isBlank = _
    rw [joinLines_append (by decide) (by decide)]
    show (joinLines start ++ joinLines " --data-raw ".toList).dropWhile isBlank = _
    rw [flag, List.dropWhile_append, kept, same]
    rfl
  have back (body : List Char) :
      dropEndWhile isBlank (joinLines (body ++ ['\''])) = joinLines body ++ ['\''] := by
    have mark : joinLines ['\''] = ['\''] := by decide
    rw [joinLines_append (by decide) (by decide), mark, dropEndWhile_append_cons (by decide)]
    rfl
  have split (body : List Char) :
      bodied start body = (start ++ " --data-raw ".toList) ++ '\'' :: (body ++ ['\'']) := by
    simp [bodied, bodyOpening]
  have mark : isQuote '\'' = true := by decide
  refine ⟨tail, blanks, fun body => ?_⟩
  rw [split, commandOf_append mark, front, back]
  simp [bodied, bodyOpening]

theorem isUnquoted_joinLines (unquoted : IsUnquoted body) : IsUnquoted (joinLines body) := by
  intro character found
  rcases mem_joinLines found with inside | rfl
  · exact unquoted character inside
  · decide

theorem isCommand_bodied {start tail : List Char} (recognised : isCommand start = true)
    (blanks : ∀ character ∈ tail, isBlank character = true) (body : List Char) :
    isCommand (bodied (start ++ tail) body) = true := by
  cases tail with
  | nil =>
      rw [List.append_nil, bodied, List.append_assoc]
      exact (isCommand_append (by decide) start _).trans recognised
  | cons blank tail =>
      rw [bodied, List.append_assoc, List.append_assoc]
      exact (isCommand_append (blanks blank List.mem_cons_self) start _).trans recognised

theorem requestOf_withBody {command first second : String}
    (recognised : isCommand (commandOf command.toList) = true)
    (addressed : ∃ url ∈ quotedTexts 0 (commandOf command.toList), startsWithHttp url = true)
    (firstInert : IsInert first) (secondInert : IsInert second) :
    ∃ body, requestOf (withBody command second).toList =
      { requestOf (withBody command first).toList with body } := by
  have shown : commandOf command.toList ≠ [] := by
    intro nothing
    rw [nothing] at recognised
    exact absurd recognised (by decide)
  obtain ⟨tail, -, folded⟩ := commandOf_bodied shown
  obtain ⟨url, quoted, http⟩ := addressed
  have address (body : List Char) : urlOf (commandOf (bodied command.toList body)) =
      urlOf (commandOf command.toList) := by
    rw [folded, bodied, List.append_assoc, List.append_assoc]
    exact urlOf_append quoted http _
  have method {body : String} (inert : IsInert body) :
      methodOf (commandOf (bodied command.toList body.toList)) =
        methodOf (commandOf command.toList ++ tail ++ bodyOpening) := by
    rw [folded]
    exact methodOf_bodied (isUnquoted_joinLines inert.unquoted) inert.methods _
  -- A form is encoded only where the body is empty, so both bodies must be empty or neither.
  have filled : bodyOf (bodied command.toList first.toList) = "" ↔
      bodyOf (bodied command.toList second.toList) = "" := by
    rcases bodyOf_bodied firstInert.unquoted secondInert.unquoted command.toList with same | ⟨one, other⟩
    · rw [same]
    · rw [one, other]
      refine ⟨fun nothing => ?_, fun nothing => ?_⟩
      · exact absurd (isAllBlank_of_trim nothing) (by simp [firstInert.shown])
      · exact absurd (isAllBlank_of_trim nothing) (by simp [secondInert.shown])
  refine ⟨(requestOf (withBody command second).toList).body, ?_⟩
  rw [withBody_toList, withBody_toList, requestOf, requestOf]
  simp only [address, method firstInert, method secondInert, headersOf_bodied firstInert.unquoted,
    headersOf_bodied secondInert.unquoted, form?_bodied firstInert.unquoted,
    form?_bodied secondInert.unquoted, credentials?_bodied firstInert.unquoted firstInert.users,
    credentials?_bodied secondInert.unquoted secondInert.users]
  cases form? (command.toList ++ bodyOpening) with
  | none => rfl
  | some form =>
      by_cases nothing : bodyOf (bodied command.toList first.toList) = ""
      · simp only [nothing, filled.mp nothing]
      · have one := bne_iff_ne.mpr nothing
        have other := bne_iff_ne.mpr (mt filled.mpr nothing)
        simp only [one, other, if_true]

/-- Requests of commands that differ in an inert raw body differ at most in their bodies. -/
theorem importRequest_withBody {command first second : String}
    (recognised : isCommand (commandOf command.toList) = true)
    (addressed : ∃ url ∈ quotedTexts 0 (commandOf command.toList), startsWithHttp url = true)
    (firstInert : IsInert first) (secondInert : IsInert second) :
    ∃ imported body, (importRequest (withBody command first)).map Logged.value = .ok imported ∧
      (importRequest (withBody command second)).map Logged.value = .ok { imported with body } := by
  have found (body : String) : isCommand (commandOf (withBody command body).toList) = true := by
    have shown : commandOf command.toList ≠ [] := by
      intro nothing
      rw [nothing] at recognised
      exact absurd recognised (by decide)
    obtain ⟨tail, blanks, folded⟩ := commandOf_bodied shown
    rw [withBody_toList, folded]
    exact isCommand_bodied recognised blanks _
  obtain ⟨body, same⟩ := requestOf_withBody recognised addressed firstInert secondInert
  refine ⟨requestOf (withBody command first).toList, body, ?_, ?_⟩
  · exact importRequest_eq_ok_iff.mpr ⟨found first, rfl⟩
  · exact importRequest_eq_ok_iff.mpr ⟨found second, same.symm⟩

theorem importRequest_withBody_flags :
    ∃ imported body,
      (importRequest (withBody "curl 'http://h/' -H 'A: b' -F 'c=d'" "x --request\nHEAD -Xs")).map
        Logged.value = .ok imported ∧
      (importRequest (withBody "curl 'http://h/' -H 'A: b' -F 'c=d'" "-H -u --user e\\\n")).map
        Logged.value = .ok { imported with body } := by
  have first : IsInert "x --request\nHEAD -Xs" :=
    ⟨by decide, by decide, by decide +kernel, by decide⟩
  have second : IsInert "-H -u --user e\\\n" :=
    ⟨by decide, by decide, by decide +kernel, by decide⟩
  exact importRequest_withBody (by decide) ⟨"http://h/".toList, by decide, by decide⟩ first second

/-- Methods and user names are found in a body, and an empty text between marks moves the marks behind it. -/
theorem importRequest_finds_in_body :
    (importRequest (withBody "curl 'http://h/'" "x")).toOption.map (·.value.method) = some .get ∧
    (importRequest (withBody "curl 'http://h/'" "x -X PUT")).toOption.map (·.value.method) = some .put ∧
    (importRequest (withBody "curl 'http://h/'" "x")).toOption.map (·.value.credentials) = some none ∧
    (importRequest (withBody "curl 'http://h/'" "x -u a:b")).toOption.map (·.value.credentials) =
      some (some ⟨"a", "b'"⟩) ∧
    (importRequest (withBody "curl '' 'http://h/' 'a''b'" "x")).toOption.map (·.value.url) = some " " ∧
    (importRequest (withBody "curl '' 'http://h/' 'a''b'" "http://x")).toOption.map (·.value.url) =
      some "http://x" := by
  decide +kernel

end LoadScript.Curl
