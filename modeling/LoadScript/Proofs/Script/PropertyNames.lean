import LoadScript.Proofs.Script.Paths
import LoadScript.Proofs.Script.Values
import LoadScript.Script.PropertyNames
import Mathlib.Data.List.DropRight

/-!
The names of an object literal's properties are read as they are written.
-/

namespace LoadScript.Script

variable {spaces text behind : List Char}

/-! White space. -/

theorem skipSpace_append (blank : ∀ character ∈ spaces, isSpace character = true) (text : List Char) :
    skipSpace (spaces ++ text) = skipSpace text :=
  List.dropWhile_append_of_pos blank

theorem skipSpace_cons {first : Char} (solid : isSpace first = false) (rest : List Char) :
    skipSpace (first :: rest) = first :: rest :=
  List.dropWhile_cons_of_neg (by simp [solid])

/-- A value is found behind white space, whatever white space it begins with itself. -/
theorem dropStart?_skipSpace (value rest : List Char) :
    ∃ valued, Text.dropStart? (skipSpace value) (skipSpace (value ++ rest)) = some valued ∧
      skipSpace valued = skipSpace rest := by
  have found (text rest : List Char) : Text.dropStart? text (text ++ rest) = some rest :=
    Text.dropStart?_eq_some_iff.mpr rfl
  induction value with
  | nil => exact ⟨skipSpace rest, found [] _, List.dropWhile_idempotent isSpace rest⟩
  | cons character others ih =>
      cases space : isSpace character with
      | true => simpa [skipSpace, space] using ih
      | false =>
          rw [List.cons_append, skipSpace_cons space, skipSpace_cons space, ← List.cons_append]
          exact ⟨rest, found _ _, rfl⟩

/-! Strings. -/

theorem stringContent?_plain {character : Char} (inLine : isLineEnd character = false)
    (notMark : character ≠ '\'') (notEscape : character ≠ '\\') (rest : List Char) :
    stringContent? '\'' (character :: rest) =
      (stringContent? '\'' rest).map fun read => (character :: read.1, read.2) := by
  rw [stringContent?]
  · simp [inLine, notMark]
  · exact fun _ _ same => absurd same notEscape

theorem stringContent?_escape {character : Char} (inLine : isLineEnd character = false) (rest : List Char) :
    stringContent? '\'' ('\\' :: character :: rest) =
      (stringContent? '\'' rest).map fun read => ('\\' :: character :: read.1, read.2) := by
  simp [stringContent?, inLine]

theorem stringContent?_quotedChar (character : Char) (rest : List Char) :
    stringContent? '\'' (quotedChar character ++ rest) =
      (stringContent? '\'' rest).map fun read => (quotedChar character ++ read.1, read.2) := by
  rcases quotedChar_cases character with
    ⟨sign, spelled, inLine, -⟩ | ⟨last, spelled, digit, -⟩ | ⟨spelled, inLine, notMark, notEscape⟩
  · rw [spelled]
    exact stringContent?_escape inLine rest
  · have inLine : isLineEnd 'u' = false ∧ isLineEnd '2' = false ∧ isLineEnd '0' = false ∧
        isLineEnd last = false := by
      rcases digit with rfl | rfl <;> decide
    have notMark : last ≠ '\'' ∧ last ≠ '\\' := by
      rcases digit with rfl | rfl <;> decide
    rw [spelled]
    simp only [List.cons_append, List.nil_append]
    rw [stringContent?_escape inLine.1, stringContent?_plain inLine.2.1 (by decide) (by decide),
      stringContent?_plain inLine.2.2.1 (by decide) (by decide),
      stringContent?_plain inLine.2.1 (by decide) (by decide),
      stringContent?_plain inLine.2.2.2 notMark.1 notMark.2]
    simp [Function.comp_def]
  · rw [spelled]
    exact stringContent?_plain inLine notMark notEscape rest

theorem stringContent?_quoted (value behind : List Char) :
    stringContent? '\'' (value.flatMap quotedChar ++ '\'' :: behind) =
      some (value.flatMap quotedChar, behind) := by
  induction value with
  | nil => rfl
  | cons character others ih =>
      rw [List.flatMap_cons, List.append_assoc, stringContent?_quotedChar, ih]
      rfl

theorem propertyName?_quote (value : String) (behind : List Char) :
    propertyName? ((quote value).toList ++ behind) = some (.quoted value, behind) := by
  have written : (quote value).toList ++ behind =
      '\'' :: (value.toList.flatMap quotedChar ++ '\'' :: behind) := by simp [quote]
  have noName : startsName '\'' = false := by decide
  rw [written, propertyName?, noName]
  simp [stringContent?_quoted, unescape_quoted]

/-! Names. -/

theorem startsName_of_isIdentifierStart {character : Char} (isStart : isIdentifierStart character = true) :
    startsName character = true := by
  have bound := (code_of_isIdentifierPart (by rw [isIdentifierPart, isStart, Bool.true_or])).2
  rw [startsName_of_sevenBit bound, isStart]

theorem continuesName_of_isIdentifierPart {character : Char} (isPart : isIdentifierPart character = true) :
    continuesName character = true := by
  rw [continuesName_of_sevenBit (code_of_isIdentifierPart isPart).2, isPart]

theorem propertyName?_name {name : String} (plain : isPlainName name.toList = true)
    (stops : Text.StopsAt continuesName behind) :
    propertyName? (name.toList ++ behind) = some (.bare name, behind) := by
  cases characters : name.toList with
  | nil => simp [characters, isPlainName] at plain
  | cons first rest =>
      rw [characters, isPlainName, Bool.and_eq_true, List.all_eq_true] at plain
      have parts : ∀ character ∈ rest, continuesName character = true :=
        fun character member => continuesName_of_isIdentifierPart (plain.2 character member)
      rw [List.cons_append, propertyName?, if_pos (startsName_of_isIdentifierStart plain.1),
        Text.takeWhile_run parts stops, Text.dropWhile_run parts stops, ← characters, String.ofList_toList]

/-- Behind a key comes its colon, unless a line feed was part of the key. -/
theorem propertyName?_keyText (quotesKeys : Bool) (key : String) (behind : List Char) :
    ∃ named, propertyName? ((keyText quotesKeys key).toList ++ ':' :: behind) =
        some (writtenName quotesKeys key, named) ∧ skipSpace named = ':' :: behind := by
  have colon : skipSpace (':' :: behind) = ':' :: behind := skipSpace_cons (by decide) behind
  have quoted : propertyName? ((quote key).toList ++ ':' :: behind) = some (.quoted key, ':' :: behind) :=
    propertyName?_quote key _
  rw [keyText, isBareKey_eq, writtenName]
  cases quotesKeys with
  | true => exact ⟨_, quoted, colon⟩
  | false =>
      cases fed : fedName? key with
      | some name =>
          obtain ⟨plain, rfl⟩ := fedName?_eq_some_iff.mp fed
          have written : (name ++ "\n").toList ++ ':' :: behind = name.toList ++ '\n' :: ':' :: behind := by
            simp
          have stops : Text.StopsAt continuesName ('\n' :: ':' :: behind) := by
            rw [Text.stopsAt_cons]
            decide
          have spaced : skipSpace ('\n' :: ':' :: behind) = ':' :: behind :=
            (skipSpace_append (by decide) (':' :: behind) : skipSpace (['\n'] ++ _) = _).trans colon
          exact ⟨_, written ▸ propertyName?_name plain stops, spaced⟩
      | none =>
          cases plain : isPlainName key.toList with
          | true =>
              have stops : Text.StopsAt continuesName (':' :: behind) := by
                rw [Text.stopsAt_cons]
                decide
              exact ⟨_, propertyName?_name plain stops, colon⟩
          | false => exact ⟨_, quoted, colon⟩

/-! Properties. -/

theorem skipSpace_of_propertyName? {read : PropertyName × List Char} (found : propertyName? text = some read) :
    skipSpace text = text := by
  cases text with
  | nil => cases found
  | cons first rest =>
      have solid : isSpace first = false := by
        rw [propertyName?] at found
        split at found
        · next starts =>
            rw [Bool.eq_false_iff]
            intro space
            have continues := continuesName_of_startsName starts
            rw [continuesName_of_isSpace space] at continues
            cases continues
        · split at found
          · next mark =>
              simp only [Bool.or_eq_true, decide_eq_true_eq] at mark
              rcases mark with rfl | rfl <;> decide
          · cases found
      exact skipSpace_cons solid rest

theorem propertyNames?_cons (blank : ∀ character ∈ spaces, isSpace character = true) (quotesKeys : Bool)
    (key value : String) (values : List String) (behind : List Char) :
    propertyNames? (value :: values)
        (spaces ++ ((keyText quotesKeys key ++ ": " ++ value).toList ++ behind)) =
      (Text.dropStart? [','] (skipSpace behind)).elim
        (if values.isEmpty && closesObject behind then some [writtenName quotesKeys key] else none)
        fun next => (propertyNames? values next).map (writtenName quotesKeys key :: ·) := by
  have entry : (keyText quotesKeys key ++ ": " ++ value).toList ++ behind =
      (keyText quotesKeys key).toList ++ ':' :: ([' '] ++ (value.toList ++ behind)) := by simp
  obtain ⟨named, read, colon⟩ :=
    propertyName?_keyText quotesKeys key ([' '] ++ (value.toList ++ behind))
  obtain ⟨valued, found, rest⟩ := dropStart?_skipSpace value.toList behind
  have assigned : Text.dropStart? [':'] (':' :: ([' '] ++ (value.toList ++ behind))) =
      some ([' '] ++ (value.toList ++ behind)) := rfl
  have gap : skipSpace ([' '] ++ (value.toList ++ behind)) = skipSpace (value.toList ++ behind) :=
    skipSpace_append (by decide) _
  have closes : closesObject valued = closesObject behind := by rw [closesObject, closesObject, rest]
  rw [propertyNames?, entry, skipSpace_append blank, skipSpace_of_propertyName? read, read]
  simp only [Option.bind_eq_bind, Option.bind_some, colon, assigned, gap, found, rest, closes]

variable {unit : String}

def writtenNames (quotesKeys : Bool) (entries : List (String × Expr)) : List PropertyName :=
  entries.map fun entry => writtenName quotesKeys entry.1

def valueTexts (unit : String) (level : Int) (entries : List (String × Expr)) : List String :=
  entries.map fun entry => exprText unit level entry.2

theorem entryTexts_eq_map (level : Int) (quotesKeys : Bool) (entries : List (String × Expr)) :
    entryTexts unit level quotesKeys entries =
      entries.map fun entry => keyText quotesKeys entry.1 ++ ": " ++ exprText unit level entry.2 := by
  induction entries with
  | nil => rw [entryTexts, List.map_nil]
  | cons entry rest ih => rw [entryTexts, ih, List.map_cons]

theorem toList_intercalate_cons (separator first next : String) (rest : List String) (behind : List Char) :
    (String.intercalate separator (first :: next :: rest)).toList ++ behind =
      first.toList ++ (separator.toList ++
        ((String.intercalate separator (next :: rest)).toList ++ behind)) := by
  rw [String.intercalate_cons_cons]
  simp only [String.toList_append, List.append_assoc]

theorem propertyNames?_inline (level : Int) (quotesKeys : Bool) (entry : String × Expr)
    (rest : List (String × Expr)) :
    propertyNames? (valueTexts unit level (entry :: rest))
        ([' '] ++ ((String.intercalate ", " (entryTexts unit level quotesKeys (entry :: rest))).toList ++
          [' ', '\x7d'])) =
      some (writtenNames quotesKeys (entry :: rest)) := by
  have comma (behind : List Char) :
      Text.dropStart? [','] (skipSpace (", ".toList ++ behind)) = some ([' '] ++ behind) := rfl
  simp only [entryTexts_eq_map, valueTexts, writtenNames]
  induction rest generalizing entry with
  | nil =>
      simp only [List.map_cons, List.map_nil, String.intercalate_singleton]
      rw [propertyNames?_cons (by decide)]
      rfl
  | cons next others ih =>
      simp only [List.map_cons] at ih ⊢
      rw [toList_intercalate_cons, propertyNames?_cons (by decide), comma, Option.elim_some, ih next,
        Option.map_some]

theorem isSpace_row (indent : IsIndent unit) (level : Int) :
    ∀ character ∈ ['\n'] ++ (padding unit level).toList, isSpace character = true := by
  rw [List.forall_mem_append]
  exact ⟨by decide, isIndent_padding indent level⟩

theorem propertyNames?_rows (indent : IsIndent unit) (outer level : Int) (quotesKeys : Bool)
    (closing : closesObject behind = true) (entry : String × Expr) (rest : List (String × Expr)) :
    propertyNames? (valueTexts unit level (entry :: rest))
        (['\n'] ++ ((String.intercalate "\n" ((entryTexts unit level quotesKeys (entry :: rest)).map fun part =>
          padding unit outer ++ part ++ ",")).toList ++ behind)) =
      some (writtenNames quotesKeys (entry :: rest)) := by
  have blank := isSpace_row indent outer
  have comma (behind : List Char) :
      Text.dropStart? [','] (skipSpace (",".toList ++ behind)) = some behind := rfl
  have feed : "\n".toList = ['\n'] := rfl
  have row (part : String) (behind : List Char) :
      ['\n'] ++ ((padding unit outer ++ part ++ ",").toList ++ behind) =
        (['\n'] ++ (padding unit outer).toList) ++ (part.toList ++ (",".toList ++ behind)) := by
    simp only [String.toList_append, List.append_assoc]
  simp only [entryTexts_eq_map, valueTexts, writtenNames]
  induction rest generalizing entry with
  | nil =>
      simp only [List.map_cons, List.map_nil, String.intercalate_singleton]
      rw [row, propertyNames?_cons blank, comma]
      simp [propertyNames?, closing]
  | cons next others ih =>
      simp only [List.map_cons] at ih ⊢
      rw [toList_intercalate_cons, row, propertyNames?_cons blank, comma, Option.elim_some, feed, ih next,
        Option.map_some]

theorem key_writtenName_eq_iff (quotesKeys : Bool) (key : String) :
    (writtenName quotesKeys key).key = key ↔ quotesKeys = true ∨ fedName? key = none := by
  rw [writtenName]
  cases quotesKeys with
  | true => exact iff_of_true rfl (.inl rfl)
  | false =>
      cases fed : fedName? key with
      | some name =>
          have shorter : name ≠ key := by
            obtain ⟨-, rfl⟩ := fedName?_eq_some_iff.mp fed
            intro same
            have length := congrArg String.length same
            simp at length
          exact iff_of_false shorter (by simp)
      | none =>
          refine iff_of_true ?_ (.inr rfl)
          cases isPlainName key.toList <;> rfl

theorem objectNames?_of_inner {values : List String} {text : String} {inner : List Char}
    (written : text.toList = '\x7b' :: inner) : objectNames? values text = propertyNames? values inner := by
  rw [objectNames?, written]
  rfl

/-- The names of an object's properties are read as they are written, in either layout and whatever the values
are. They are its keys, unless quotation marks are left out and a line feed stands behind a name: it is no part of
the name that is read. -/
theorem propertyNames_of_object (indent : IsIndent unit) (level : Int) (entries : List (String × Expr))
    (quotesKeys inline : Bool) :
    objectNames? (valueTexts unit (innerLevel inline level) entries)
        (exprText unit level (.object entries quotesKeys inline)) = some (writtenNames quotesKeys entries) ∧
    ((writtenNames quotesKeys entries).map PropertyName.key = entries.map Prod.fst ↔
      quotesKeys = true ∨ ∀ entry ∈ entries, fedName? entry.1 = none) := by
  constructor
  · cases entries with
    | nil =>
        rw [exprText, List.isEmpty_nil, if_pos rfl]
        rfl
    | cons entry rest =>
        rw [exprText, List.isEmpty_cons, if_neg Bool.false_ne_true]
        cases inline with
        | true =>
            have line (parts : String) : (openBrace ++ " " ++ parts ++ " " ++ closeBrace).toList =
                '\x7b' :: ([' '] ++ (parts.toList ++ [' ', '\x7d'])) := by
              simp [openBrace, closeBrace]
            rw [if_pos rfl, objectNames?_of_inner (line _)]
            exact propertyNames?_inline level quotesKeys entry rest
        | false =>
            have lines (parts : List String) : (spread unit level openBrace closeBrace parts).toList =
                '\x7b' :: (['\n'] ++ ((String.intercalate "\n" (parts.map fun part =>
                  padding unit (level + 1) ++ part ++ ",")).toList ++
                    (['\n'] ++ (padding unit level).toList ++ ['\x7d']))) := by
              simp [spread, openBrace, closeBrace]
            have closing : closesObject (['\n'] ++ (padding unit level).toList ++ ['\x7d']) = true := by
              rw [closesObject, skipSpace_append (isSpace_row indent level)]
              rfl
            rw [if_neg Bool.false_ne_true, objectNames?_of_inner (lines _)]
            exact propertyNames?_rows indent (level + 1) (level + 1) quotesKeys closing entry rest
  · rw [writtenNames, List.map_map, List.map_inj_left]
    simp only [Function.comp_apply, key_writtenName_eq_iff]
    cases quotesKeys <;> simp

def mixedEntries : List (String × Expr) := [
  ("$vus_1", .number (.whole 10)),
  ("Content-Type", .string "a, b: c"),
  ("é", .raw " f(1, 2)"),
  ("1st", .object [("x", .string "\x7d")] false false),
  ("", .array [] true),
  ("it's\u2028\n\\", .raw "")]

theorem propertyNames_of_object_mixed :
    IsIndent standardUnit ∧
      objectNames? (valueTexts standardUnit (innerLevel false 0) mixedEntries)
          (exprText standardUnit 0 (.object mixedEntries false false)) =
        some [.bare "$vus_1", .quoted "Content-Type", .quoted "é", .quoted "1st", .quoted "",
          .quoted "it's\u2028\n\\"] := by
  have written : writtenNames false mixedEntries =
      [.bare "$vus_1", .quoted "Content-Type", .quoted "é", .quoted "1st", .quoted "",
        .quoted "it's\u2028\n\\"] := by decide +kernel
  have read := (propertyNames_of_object isIndent_standardUnit 0 mixedEntries false false).1
  rw [written] at read
  exact ⟨isIndent_standardUnit, read⟩

/-- A line feed behind a name is not seen when the key is written, and is white space when it is read. -/
theorem propertyName_loses_lineFeed :
    exprText standardUnit 0 (.object [("a\n", .number (.whole 1))] false true) = "\x7b a\n: 1 \x7d" ∧
      objectNames? ["1"] "\x7b a\n: 1 \x7d" = some [.bare "a"] := by
  decide +kernel

end LoadScript.Script
