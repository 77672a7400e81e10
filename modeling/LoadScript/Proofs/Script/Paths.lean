import LoadScript.Proofs.Script.Lexing
import LoadScript.Proofs.Text.Cutting
import LoadScript.Proofs.Text.Words
import LoadScript.Script.Template

/-!
Names and paths stand in a script as they are, and are read as words with points between them.
-/

namespace LoadScript.Script

def IsWord : List Char → Prop
  | [] => False
  | first :: rest => isWordStart first = true ∧ ∀ character ∈ rest, isWordPart character = true

/-! Words. -/

theorem forall_sevenBit (holds : Char → Prop) (all : ∀ code : Fin 128, holds (Char.ofNat code))
    {character : Char} (bound : character.toNat < 128) : holds character := by
  simpa only [Char.ofNat_toNat] using all ⟨character.toNat, bound⟩

theorem bound_of_isDigit {character : Char} (digit : character.isDigit = true) :
    character.toNat < 128 :=
  (code_of_isIdentifierPart (by rw [isIdentifierPart, digit, Bool.or_true])).2

theorem isDigit_of_isWordStart {character : Char} (isStart : isWordStart character = true) :
    character.isDigit = false := by
  rw [Bool.eq_false_iff]
  intro digit
  have apart := forall_sevenBit (fun other => isWordStart other = true → other.isDigit = false)
    (by decide +kernel) (bound_of_isDigit digit)
  rw [apart isStart] at digit
  cases digit

theorem start_word {character : Char} (isStart : isWordStart character = true) :
    start [] character = ([], ⟨.word [character], []⟩) := by
  have noBoundary : isBoundary character = false := by
    rw [Bool.eq_false_iff]
    intro boundary
    simpa [isWordPart, isStart] using isWordPart_boundary boundary
  simp only [isBoundary, Bool.or_eq_false_iff] at noBoundary
  have noMark (mark : Char) (ends : isWordStart mark = false) : character ≠ mark := by
    rintro rfl
    rw [ends] at isStart
    cases isStart
  simp [start, noBoundary, isDigit_of_isWordStart isStart, isStart, noMark '/' (by decide),
    noMark '\'' (by decide), noMark '"' (by decide), noMark '\x60' (by decide), noMark '\x7b' (by decide),
    noMark '\x7d' (by decide)]

theorem step_point {first : Char} (isStart : isWordStart first = true) :
    step ⟨.punctuator ['.'], []⟩ first = some ([.punctuator ['.']], ⟨.word [first], []⟩) := by
  have free : ∀ punctuator ∈ punctuators, ∀ other ∈ punctuator, isWordStart other = false := by decide
  have noLonger : startsPunctuator ['.', first] = false := by
    simp only [startsPunctuator, List.any_eq_false]
    intro punctuator member starts
    have inside : first ∈ punctuator := (List.isPrefixOf_iff_prefix.mp starts).subset (by simp)
    rw [free punctuator member first inside] at isStart
    cases isStart
  have apart : Mode.extend? (.punctuator ['.']) first = none := by
    simp [Mode.extend?, noLonger, isDigit_of_isWordStart isStart]
  rw [step_code rfl, codeStep, apart, start_word isStart]
  rfl

theorem lexFrom_word {word : List Char} (isWord : IsWord word) (rest : List Char) :
    lexFrom ⟨.between, []⟩ (word ++ rest) = lexFrom ⟨.word word, []⟩ rest := by
  have parts (others : List Char) (all : ∀ character ∈ others, isWordPart character = true) : ∀ text,
      lexFrom ⟨.word text, []⟩ (others ++ rest) = lexFrom ⟨.word (text ++ others), []⟩ rest := by
    induction others with
    | nil => intro text; simp
    | cons character others ih =>
        intro text
        have stepped : step ⟨.word text, []⟩ character = some ([], ⟨.word (text ++ [character]), []⟩) := by
          simp [step, codeStep, Mode.extend?, all character List.mem_cons_self]
        rw [List.cons_append, lexFrom_cons_silent stepped,
          ih fun other member => all other (List.mem_cons_of_mem _ member)]
        simp
  cases word with
  | nil => exact absurd isWord id
  | cons first others =>
      have fresh : step ⟨.between, []⟩ first = some ([], ⟨.word [first], []⟩) := by
        rw [step_between, start_word isWord.1]
      rw [List.cons_append, lexFrom_cons_silent fresh, parts others isWord.2]
      rfl

theorem lexFrom_point {word : List Char} (isWord : IsWord word) (rest : List Char) :
    lexFrom ⟨.punctuator ['.'], []⟩ (word ++ rest) =
      (lexFrom ⟨.between, []⟩ (word ++ rest)).map ([.punctuator ['.']] ++ ·) := by
  cases word with
  | nil => exact absurd isWord id
  | cons first others =>
      have fresh : step ⟨.between, []⟩ first = some ([], ⟨.word [first], []⟩) := by
        rw [step_between, start_word isWord.1]
      rw [List.cons_append, lexFrom_cons (step_point isWord.1), lexFrom_cons_silent fresh]

theorem lex_words {words : List (List Char)} (nonempty : words ≠ [])
    (all : ∀ word ∈ words, IsWord word) :
    lex (String.ofList (['.'].intercalate words)) =
      some ((words.map Token.word).intersperse (.punctuator ['.'])) := by
  rw [lex, String.toList_ofList]
  induction words with
  | nil => exact absurd rfl nonempty
  | cons word words ih =>
      rw [List.forall_mem_cons] at all
      cases words with
      | nil =>
          have read := lexFrom_word all.1 []
          rw [List.append_nil] at read
          rw [List.intercalate_singleton, read]
          rfl
      | cons next words =>
          have behind := ih (List.cons_ne_nil _ _) all.2
          have ends : step ⟨.word word, []⟩ '.' = some ([.word word], ⟨.punctuator ['.'], []⟩) := rfl
          obtain ⟨rest, begins⟩ : ∃ rest, ['.'].intercalate (next :: words) = next ++ rest := by
            cases words with
            | nil => exact ⟨[], by simp⟩
            | cons => exact ⟨_, by rw [List.intercalate_cons_cons, List.append_assoc]⟩
          rw [begins] at behind
          rw [List.intercalate_cons_cons, List.append_assoc, lexFrom_word all.1, List.singleton_append,
            lexFrom_cons ends, begins, lexFrom_point (all.2 next List.mem_cons_self), behind]
          rfl

/-! Names. -/

theorem continuesName_of_isSpace {character : Char} (space : isSpace character = true) :
    continuesName character = false := by
  have apart : ∀ range ∈ spaceRanges, ∀ code ∈ List.range' range.1 (range.2 + 1 - range.1),
      continuesName (Char.ofNat code) = false := by decide +kernel
  obtain ⟨range, member, least, most⟩ := Text.Ranges.range_of_contains space
  have known := apart range member character.toNat (List.mem_range'_1.mpr (by omega))
  rwa [Char.ofNat_toNat] at known

/-- Of the seven-bit characters, the tables let the same ones start a name as a key without quotes may start
with. -/
theorem startsName_of_sevenBit {character : Char} (bound : character.toNat < 128) :
    startsName character = isIdentifierStart character :=
  forall_sevenBit (fun other => startsName other = isIdentifierStart other) (by decide +kernel) bound

theorem continuesName_of_sevenBit {character : Char} (bound : character.toNat < 128) :
    continuesName character = isIdentifierPart character :=
  forall_sevenBit (fun other => continuesName other = isIdentifierPart other) (by decide +kernel) bound

theorem isWordPart_of_isIdentifierPart {character : Char} (part : isIdentifierPart character = true) :
    isWordPart character = true := by
  rw [isIdentifierPart, Bool.or_eq_true] at part
  rw [isWordPart, isWordStart, Bool.or_eq_true, Bool.or_eq_true]
  exact part.imp_left Or.inl

/-- Beyond the seven-bit characters, whatever goes on with a name is read as a letter. -/
theorem isWordPart_of_continuesName {character : Char} (continues : continuesName character = true) :
    isWordPart character = true := by
  by_cases bound : character.toNat < 128
  · rw [continuesName_of_sevenBit bound] at continues
    exact isWordPart_of_isIdentifierPart continues
  · have noSpace : isSpace character = false := by
      rw [Bool.eq_false_iff]
      intro space
      rw [continuesName_of_isSpace space] at continues
      cases continues
    simp [isWordPart, isWordStart, noSpace, Nat.le_of_not_lt bound]

theorem continuesName_of_startsName {character : Char} (starts : startsName character = true) :
    continuesName character = true := by
  simp only [startsName, Bool.or_eq_true, decide_eq_true_eq] at starts
  rcases starts with (letter | dollar) | underscore
  · simp [continuesName, Text.continuesLetters, letter]
  · simp [continuesName, dollar]
  · rw [underscore]
    decide

theorem isWordStart_of_startsName {character : Char} (starts : startsName character = true) :
    isWordStart character = true := by
  have part := isWordPart_of_continuesName (continuesName_of_startsName starts)
  rw [isWordPart, Bool.or_eq_true] at part
  rcases part with isStart | digit
  · exact isStart
  · rw [startsName_of_sevenBit (bound_of_isDigit digit)] at starts
    rw [isWordStart, starts, Bool.true_or]

theorem IsName.isWord {name : List Char} (isName : IsName name) : IsWord name := by
  cases name with
  | nil => exact isName
  | cons first rest =>
      exact ⟨isWordStart_of_startsName isName.1,
        fun character member => isWordPart_of_continuesName (isName.2 character member)⟩

/-! Paths. -/

theorem codeTokens_path {code : String} (path : IsPath code) : codeTokens code = pathTokens code := by
  have read := lex_words (Text.splitAt_ne_nil '.' code.toList) fun name member => (path name member).isWord
  rw [Text.intercalate_splitAt, String.ofList_toList] at read
  rw [codeTokens, read]
  rfl

theorem isVerbatim_path {code : String} (path : IsPath code) (inserted : Bool) :
    IsVerbatim inserted code := by
  apply isVerbatim_of_kind fun character => isWordPart character || character = '.'
  · decide
  intro character member
  rw [← Text.intercalate_splitAt '.' code.toList] at member
  rcases Text.mem_intercalate member with rfl | ⟨name, isPiece, inside⟩
  · rfl
  · have isWord := (path name isPiece).isWord
    cases name with
    | nil => cases inside
    | cons first rest =>
        rcases List.mem_cons.mp inside with rfl | later
        · simp [isWordPart, isWord.1]
        · simp [isWord.2 character later]

end LoadScript.Script
