import LoadScript.Proofs.Curl.Folding
import LoadScript.Proofs.Curl.Methods
import LoadScript.Proofs.Curl.Quotes
import LoadScript.Proofs.Curl.Requests
import LoadScript.Proofs.Curl.WrittenArguments
import Mathlib.Data.List.Basic

/-!
Importing a command that was written from a request gives the request.
-/

namespace LoadScript.Curl

open Text

variable {α : Type} {letterCase : FlagCase} {names : List String}
  {read? : List Char → Option (α × List Char)}

namespace Command

variable {command : Command}

theorem isPlain_divided {flag : String} {key gap value : List Char}
    (solid : ∀ letter ∈ flag.toList, isBlank letter = false)
    (keyPlain : IsUnquoted key ∧ HasNoFlag true key) (gapPlain : IsUnquoted gap ∧ HasNoFlag true gap)
    (valuePlain : IsUnquoted value ∧ HasNoFlag true value) :
    Argument.IsPlain ⟨flag, key ++ gap ++ value⟩ where
  solid := solid
  unquoted := by
    intro character found
    rw [List.mem_append, List.mem_append] at found
    rcases found with (inKey | inGap) | inValue
    · exact keyPlain.1 character inKey
    · exact gapPlain.1 character inGap
    · exact valuePlain.1 character inValue
  flagless := ((keyPlain.2.of_start false).append gapPlain.2).append valuePlain.2

theorem IsPlain.plain_text (plain : command.IsPlain) {text : String} (member : text ∈ command.texts) :
    IsUnquoted text.toList ∧ HasNoFlag true text.toList :=
  ⟨plain.unquoted text member, plain.flagless text member⟩

theorem url_mem_texts (command : Command) : command.url ∈ command.texts := by
  simp [texts]

theorem mem_texts_of_header {header : Header} (member : header ∈ command.headers) :
    header.key ∈ command.texts ∧ header.value ∈ command.texts := by
  have both (text : String) (part : text ∈ [header.key, header.value]) : text ∈ command.texts := by
    simp only [texts, List.mem_append, List.mem_cons, List.mem_flatMap]
    exact .inl (.inr (.inr ⟨header, member, by simpa using part⟩))
  exact ⟨both _ (by simp), both _ (by simp)⟩

theorem mem_texts_of_credentials {credentials : Credentials}
    (member : credentials ∈ command.credentials.toList) :
    credentials.user ∈ command.texts ∧ credentials.password ∈ command.texts := by
  have both (text : String) (part : text ∈ [credentials.user, credentials.password]) :
      text ∈ command.texts := by
    simp only [texts, List.mem_append, List.mem_flatMap]
    exact .inr ⟨credentials, member, part⟩
  exact ⟨both _ (by simp), both _ (by simp)⟩

theorem IsPlain.arguments (plain : command.IsPlain) :
    ∀ argument ∈ command.arguments, argument.IsPlain := by
  intro argument member
  rw [Command.arguments, List.mem_append, List.mem_append, List.mem_map, List.mem_map,
    List.mem_singleton] at member
  rcases member with (⟨header, inHeaders, rfl⟩ | ⟨credentials, inCredentials, rfl⟩) | rfl
  · obtain ⟨key, value⟩ := mem_texts_of_header inHeaders
    have divided : Argument.IsPlain ⟨"--header", header.key.toList ++ [':', ' '] ++ header.value.toList⟩ :=
      isPlain_divided (by decide) (plain.plain_text key) (by decide) (plain.plain_text value)
    rwa [List.append_assoc] at divided
  · obtain ⟨user, password⟩ := mem_texts_of_credentials inCredentials
    have divided : Argument.IsPlain
        ⟨"--user", credentials.user.toList ++ [':'] ++ credentials.password.toList⟩ :=
      isPlain_divided (by decide) (plain.plain_text user) (by decide) (plain.plain_text password)
    rwa [List.append_assoc] at divided
  · have member : command.body ∈ command.texts := by simp [texts]
    obtain ⟨unquoted, flagless⟩ := plain.plain_text member
    exact ⟨by show ∀ letter ∈ "--data".toList, _; decide, unquoted, flagless.of_start false⟩

theorem opening_eq (command : Command) :
    command.opening = "curl --request ".toList ++ command.method.name.toList ++ " '".toList ++
      command.url.toList ++ ['\''] := by
  simp only [opening, String.toList_append]
  rfl

theorem opening_split (command : Command) :
    command.opening = "curl ".toList ++
      ("--request".toList ++ (' ' :: command.method.name.toList ++ marked command.url.toList)) := by
  simp [opening_eq, marked]

theorem findAll_opening (plain : command.IsPlain) (flags : ∀ name ∈ names, IsFlag name)
    (other : takes letterCase names "--request".toList = false) (rest : List Char) :
    findAll (readBehind letterCase names read?) true 0 (command.opening ++ rest) =
      findAll (readBehind letterCase names read?) false 0 rest := by
  have method : HasNoFlag true command.method.name.toList := by
    cases command.method <;> decide
  rw [opening_split]
  exact findAll_addressed flags other method (plain.plain_text command.url_mem_texts).2 rest

theorem finds_chars (plain : command.IsPlain) (letterCase : FlagCase) (flags : ∀ name ∈ names, IsFlag name)
    (other : takes letterCase names "--request".toList = false) {value? : List Char → Option α}
    (reads : ∀ text rest, IsUnquoted text →
      read? ('\'' :: text ++ '\'' :: rest) = (value? text).map fun value => (value, rest)) :
    finds (readBehind letterCase names read?) command.chars =
      (if takes letterCase names "--header".toList then
          command.headers.filterMap fun header => value? (headerArgument header).text else []) ++
        (if takes letterCase names "--user".toList then
          command.credentials.toList.filterMap fun credentials =>
            value? (userArgument credentials).text else []) ++
        (if takes letterCase names "--data".toList then (value? command.body.toList).toList else []) := by
  rw [finds, chars, findAll_opening plain flags other, findAll_arguments flags reads plain.arguments,
    arguments, List.filterMap_append, List.filterMap_append, List.filterMap_map, List.filterMap_map]
  congr 1
  · congr 1
    · show command.headers.filterMap (fun header =>
        if takes letterCase names "--header".toList then value? (headerArgument header).text else none) = _
      split
      · rfl
      · exact List.filterMap_eq_nil_iff.mpr fun _ _ => rfl
    · show command.credentials.toList.filterMap (fun credentials =>
        if takes letterCase names "--user".toList then value? (userArgument credentials).text else none) = _
      split
      · rfl
      · exact List.filterMap_eq_nil_iff.mpr fun _ _ => rfl
  · show (match if takes letterCase names "--data".toList then value? command.body.toList else none with
      | none => []
      | some value => [value]) = _
    cases takes letterCase names "--data".toList with
    | true => cases value? command.body.toList <;> rfl
    | false => rfl

theorem pair?_divided {key : List Char} (absent : ':' ∉ key) (dropsBlanks : Bool) (value : List Char) :
    pair? dropsBlanks (key ++ ':' :: value) =
      some (key, if dropsBlanks then value.dropWhile isBlank else value) := by
  rw [pair?, cut?_mark absent]
  rfl

theorem trimChars_dropWhile (text : List Char) : trimChars (text.dropWhile isBlank) = trimChars text := by
  rw [trimChars, trimChars, dropWhile_of_stopsAt (stopsAt_dropWhile isBlank text)]

theorem ofList_trimChars {text : String} (trimmed : trim text = text) :
    String.ofList (trimChars text.toList) = text := trimmed

theorem headersOf_chars (plain : command.IsPlain) : headersOf command.chars = command.headers := by
  have found := finds_chars plain .exact header_flags (by decide)
    fun text rest unquoted => quotedPair?_mark (by decide) unquoted true rest
  rw [if_pos (by decide), if_neg (by decide), if_neg (by decide), List.append_nil, List.append_nil]
    at found
  have divided (header : Header) (member : header ∈ command.headers) :
      (pair? true (headerArgument header).text).map (fun parts =>
        Header.mk (String.ofList (trimChars parts.1)) (String.ofList (trimChars parts.2))) =
          some header := by
    obtain ⟨absent, trimmed⟩ := plain.keys header member
    have value : trimChars ((' ' :: header.value.toList).dropWhile isBlank) =
        trimChars header.value.toList := by
      show trimChars (header.value.toList.dropWhile isBlank) = _
      exact trimChars_dropWhile _
    rw [headerArgument, pair?_divided absent, if_pos rfl, Option.map_some]
    simp only [value, ofList_trimChars trimmed, ofList_trimChars (plain.values header member)]
  rw [headersOf_eq, found, List.map_filterMap, List.filterMap_congr divided, List.filterMap_some]

theorem credentials?_chars (plain : command.IsPlain) :
    credentials? command.chars = command.credentials := by
  have readsBare (text rest : List Char) (_ : IsUnquoted text) :
      barePair? ('\'' :: text ++ '\'' :: rest) = none.map fun value => (value, rest) :=
    barePair?_mark (by decide) (text ++ '\'' :: rest)
  have quoted := finds_chars plain .exact user_flags (by decide)
    fun text rest unquoted => quotedPair?_mark (by decide) unquoted false rest
  have bare := finds_chars plain .exact user_flags (by decide) readsBare
  rw [if_neg (by decide), if_pos (by decide), if_neg (by decide), List.append_nil, List.nil_append]
    at quoted bare
  rw [credentials?_eq, quoted, bare]
  cases given : command.credentials with
  | none => rfl
  | some credentials =>
      have absent := plain.users credentials (by rw [given]; rfl)
      simp [userArgument, pair?_divided absent]

theorem bodyOf_chars (plain : command.IsPlain) : bodyOf command.chars = command.body := by
  have read (text rest : List Char) (unquoted : IsUnquoted text) :
      quoted? ('\'' :: text ++ '\'' :: rest) = (some text).map fun value => (value, rest) :=
    quoted?_mark (by decide) unquoted rest
  have raw := finds_chars plain .either rawData_flags (by decide) read
  have data := finds_chars plain .either data_flags (by decide) read
  rw [if_neg (by decide), if_neg (by decide), if_neg (by decide)] at raw
  rw [if_neg (by decide), if_neg (by decide), if_pos (by decide)] at data
  rw [bodyOf_eq, raw, data]
  exact ofList_trimChars plain.body

theorem form?_chars (plain : command.IsPlain) : form? command.chars = none := by
  have read (text rest : List Char) (unquoted : IsUnquoted text) :
      quoted? ('\'' :: text ++ '\'' :: rest) = (some text).map fun value => (value, rest) :=
    quoted?_mark (by decide) unquoted rest
  have nothingFound := finds_chars plain .exact form_flags (by decide) read
  rw [if_neg (by decide), if_neg (by decide), if_neg (by decide)] at nothingFound
  rw [form?_eq, nothingFound]
  rfl

theorem noFeed_opening (plain : command.IsPlain) : '\n' ∉ command.opening := by
  have url : '\n' ∉ command.url.toList := fun found =>
    absurd (plain.solid '\n' found) (by decide)
  have method : '\n' ∉ command.method.name.toList := by
    cases command.method <;> decide
  rw [opening_eq]
  simp [url, method]

theorem commandOf_chars (plain : command.IsPlain) :
    ∃ behind, commandOf command.chars = command.opening ++ behind := by
  obtain ⟨start, closed⟩ : ∃ start, command.opening = start ++ ['\''] := ⟨_, opening_eq command⟩
  have starts : StopsAt isBlank start := by
    have whole : StopsAt isBlank command.opening := by
      intro character found
      have same : 'c' = character := by simpa [opening_eq] using found
      rw [← same]
      decide
    rw [closed] at whole
    exact whole.of_start ⟨_, rfl⟩
  have noFeed : '\n' ∉ start := by
    intro found
    refine noFeed_opening plain ?_
    rw [closed]
    exact List.mem_append_left _ found
  refine ⟨dropEndWhile isBlank (joinLines (command.arguments.flatMap Argument.chars)), ?_⟩
  rw [chars, closed, List.append_assoc, List.append_assoc]
  show commandOf (start ++ '\'' :: _) = _
  rw [commandOf_append (by decide), joinLines_of_noFeed noFeed, dropWhile_of_stopsAt starts]
  rfl

theorem isCommand_opening (command : Command) (behind : List Char) :
    isCommand (command.opening ++ behind) = true := by
  rw [opening_eq]
  simp [isCommand, dropStart?]
  decide

theorem methodOf_opening (command : Command) (behind : List Char) :
    methodOf (command.opening ++ behind) = command.method := by
  have opening : command.opening ++ behind = "curl ".toList ++
      ("--request".toList ++ ' ' :: command.method.name.toList ++
        (marked command.url.toList ++ behind)) := by
    simp [opening_split]
  have flag : takes .either ["--request", "-x"] "--request".toList = true := by decide
  have read : readBehind .either ["--request", "-x"] methodName?
      ("--request".toList ++ ' ' :: command.method.name.toList ++
        (marked command.url.toList ++ behind)) =
      some (command.method, marked command.url.toList ++ behind) := by
    have solid : (command.method.name.toList ++ (marked command.url.toList ++ behind)).dropWhile isBlank =
        command.method.name.toList ++ (marked command.url.toList ++ behind) := by
      cases command.method <;> rfl
    rw [List.append_assoc, List.cons_append, readBehind,
      argument?_word method_flags (by decide) (by decide), flag, if_pos rfl, solid]
    exact methodName?_name command.method _
  have start : HasNoFlag true "curl ".toList := by decide
  have begins : startBehind true "curl ".toList = true := by decide
  rw [methodOf_eq_finds, opening, finds, findAll_pass (start.reads_nothing method_flags _), begins,
    findAll_hit (by simp) read]
  rfl

theorem IsPlain.url_ne_nil (plain : command.IsPlain) : command.url.toList ≠ [] := by
  intro empty
  have http := plain.http
  rw [empty] at http
  exact absurd http (by decide)

theorem urlOf_opening (plain : command.IsPlain) (behind : List Char) :
    urlOf (command.opening ++ behind) = command.url.toList := by
  have opening : command.opening ++ behind = "curl --request ".toList ++ command.method.name.toList ++
      [' '] ++ ('\'' :: command.url.toList ++ '\'' :: behind) := by
    simp [opening_eq]
  have unquoted : IsUnquoted ("curl --request ".toList ++ command.method.name.toList ++ [' ']) := by
    cases command.method <;> decide
  have url := (plain.plain_text command.url_mem_texts).1
  rw [urlOf, opening, quotedTexts_unquoted unquoted,
    quotedTexts_quoted (by decide) (by decide) url plain.url_ne_nil]
  simp only [List.find?_cons, plain.http]
  rfl

end Command

/-- Importing a written command gives the request that it was written from. -/
theorem importRequest_text (command : Command) (plain : command.IsPlain) :
    (importRequest command.text).map Logged.value = .ok command.request := by
  obtain ⟨behind, folded⟩ := command.commandOf_chars plain
  have recognised : isCommand (commandOf command.text.toList) = true := by
    rw [Command.text, String.toList_ofList, folded]
    exact command.isCommand_opening behind
  have request : requestOf command.text.toList = command.request := by
    rw [Command.text, String.toList_ofList, requestOf]
    simp only [folded, Command.headersOf_chars plain, Command.bodyOf_chars plain,
      Command.form?_chars plain, Command.credentials?_chars plain, Command.methodOf_opening,
      Command.urlOf_opening plain, String.ofList_toList]
    rfl
  exact importRequest_eq_ok_iff.mpr ⟨recognised, request.symm⟩

def ordering : Command := {
  method := .post
  url := "https://shop.test/orders"
  headers := [⟨"Accept", "text/plain; q=0.5"⟩, ⟨"X-Trace", ""⟩]
  credentials := some ⟨"ann", "pass: word"⟩
  body := "2 pens, 1 book" }

theorem importRequest_text_ordering :
    ordering.IsPlain ∧ (importRequest ordering.text).map Logged.value = .ok ordering.request := by
  have plain : ordering.IsPlain := {
    http := by decide
    solid := by decide
    keys := by decide
    values := by decide
    users := by decide
    body := by decide
    unquoted := by decide
    flagless := by decide }
  exact ⟨plain, importRequest_text ordering plain⟩

end LoadScript.Curl
