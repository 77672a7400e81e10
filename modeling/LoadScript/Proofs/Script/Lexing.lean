import LoadScript.Proofs.Text.Runs
import LoadScript.Script.Printer
import LoadScript.Script.Tokens

/-!
Reading a text piece by piece: pieces that are read alike whatever comes behind them, and pieces that need a
boundary behind them.
-/

namespace LoadScript.Script

def isBoundary (character : Char) : Bool := isSpace character || isLone character

def Bounds (text : String) : Prop := text.toList.head?.any isBoundary = true

instance (text : String) : Decidable (Bounds text) :=
  inferInstanceAs (Decidable (text.toList.head?.any isBoundary = true))

/-- Between two tokens, a text gives its tokens and is left between two tokens, whatever comes behind it. -/
def Reads (before : List Nat) (text : String) (tokens : List Token) (after : List Nat) : Prop :=
  ∀ rest, lexFrom ⟨.between, before⟩ (text.toList ++ rest) =
    (lexFrom ⟨.between, after⟩ rest).map (tokens ++ ·)

def Spells (insertions : List Nat) (text : String) (tokens : List Token) : Prop :=
  ∀ rest, Text.StartsWith isBoundary rest →
    lexFrom ⟨.between, insertions⟩ (text.toList ++ rest) =
      (lexFrom ⟨.between, insertions⟩ rest).map (tokens ++ ·)

variable {before inner after insertions : List Nat} {text first second : String}
variable {tokens firstTokens secondTokens : List Token}

theorem lexFrom_cons {state next : State} {character : Char}
    (stepped : step state character = some (tokens, next)) (rest : List Char) :
    lexFrom state (character :: rest) = (lexFrom next rest).map (tokens ++ ·) := by
  simp only [lexFrom, stepped, Option.bind_eq_bind, Option.bind_some]
  cases lexFrom next rest <;> rfl

theorem lexFrom_cons_silent {state next : State} {character : Char}
    (stepped : step state character = some ([], next)) (rest : List Char) :
    lexFrom state (character :: rest) = lexFrom next rest := by
  rw [lexFrom_cons stepped]
  simp

theorem map_append_tokens (others : Option (List Token)) :
    (others.map (secondTokens ++ ·)).map (firstTokens ++ ·) =
      others.map ((firstTokens ++ secondTokens) ++ ·) := by
  cases others <;> simp

theorem Bounds.startsWith (bounds : Bounds text) (rest : List Char) :
    Text.StartsWith isBoundary (text.toList ++ rest) := by
  rw [Bounds] at bounds
  cases characters : text.toList with
  | nil => simp [characters] at bounds
  | cons character others => exact ⟨character, others ++ rest, rfl, by simpa [characters] using bounds⟩

namespace Reads

theorem append (reads : Reads before first firstTokens inner)
    (others : Reads inner second secondTokens after) :
    Reads before (first ++ second) (firstTokens ++ secondTokens) after := by
  intro rest
  rw [String.toList_append, List.append_assoc, reads, others, map_append_tokens]

theorem spells (reads : Reads insertions text tokens insertions) : Spells insertions text tokens :=
  fun rest _ => reads rest

theorem append_spells (reads : Reads insertions first firstTokens insertions)
    (spelled : Spells insertions second secondTokens) :
    Spells insertions (first ++ second) (firstTokens ++ secondTokens) := by
  intro rest boundary
  rw [String.toList_append, List.append_assoc, reads, spelled rest boundary, map_append_tokens]

theorem lex_eq (reads : Reads [] text tokens []) : lex text = some tokens := by
  have read := reads []
  rw [List.append_nil] at read
  rw [lex, read]
  simp [lexFrom, finish, Mode.pending]

end Reads

namespace Spells

theorem append_reads (spelled : Spells before first firstTokens)
    (others : Reads before second secondTokens after) (bounds : Bounds second) :
    Reads before (first ++ second) (firstTokens ++ secondTokens) after := by
  intro rest
  rw [String.toList_append, List.append_assoc, spelled _ (bounds.startsWith rest), others,
    map_append_tokens]

end Spells

theorem Reads.enclose {left right : String} {leftTokens rightTokens : List Token}
    (opening : Reads before left leftTokens inner) (spelled : Spells inner text tokens)
    (closing : Reads inner right rightTokens after) (bounds : Bounds right) :
    Reads before (left ++ text ++ right) (leftTokens ++ tokens ++ rightTokens) after := by
  have read := opening.append (spelled.append_reads closing bounds)
  rw [← String.append_assoc, ← List.append_assoc] at read
  exact read

/-! Texts that are known. -/

def advance (state : State) : List Char → Option (List Token × State)
  | [] => some ([], state)
  | character :: rest => do
      let (tokens, next) ← step state character
      let (others, last) ← advance next rest
      pure (tokens ++ others, last)

theorem lexFrom_advance {part : List Char} : ∀ {state next : State} {tokens : List Token},
    advance state part = some (tokens, next) →
    ∀ rest, lexFrom state (part ++ rest) = (lexFrom next rest).map (tokens ++ ·) := by
  induction part with
  | nil =>
      intro state next tokens advanced rest
      cases advanced
      simp
  | cons character others ih =>
      intro state next tokens advanced rest
      simp only [advance, Option.bind_eq_bind, Option.bind_eq_some_iff, Option.pure_def,
        Option.some.injEq, Prod.mk.injEq] at advanced
      obtain ⟨⟨emitted, middle⟩, stepped, ⟨more, last⟩, continued, rfl, rfl⟩ := advanced
      rw [List.cons_append, lexFrom_cons stepped, ih continued, map_append_tokens]

theorem reads_of_advance
    (advanced : advance ⟨.between, before⟩ text.toList = some (tokens, ⟨.between, after⟩)) :
    Reads before text tokens after :=
  fun rest => lexFrom_advance advanced rest

theorem reads_open : Reads insertions openBrace [sign "\x7b"] (openBracket insertions) :=
  reads_of_advance rfl

theorem reads_close : Reads (openBracket insertions) closeBrace [sign "\x7d"] insertions := by
  apply reads_of_advance
  cases insertions <;> rfl

theorem step_between (insertions : List Nat) (character : Char) :
    step ⟨.between, insertions⟩ character = some (start insertions character) := rfl

theorem reads_spaces (spaces : ∀ character ∈ text.toList, isSpace character = true) :
    Reads insertions text [] insertions := by
  intro rest
  generalize text.toList = characters at spaces
  induction characters with
  | nil => simp
  | cons character others ih =>
      have stepped : step ⟨.between, insertions⟩ character = some ([], ⟨.between, insertions⟩) := by
        simp [step_between, start, spaces character (by simp)]
      rw [List.cons_append, lexFrom_cons_silent stepped]
      exact ih fun other member => spaces other (by simp [member])

/-! Code that stands in the script as it is. -/

def Mode.isCode : Mode → Bool
  | .between | .word _ | .numeral _ | .punctuator _ => true
  | _ => false

theorem step_code {mode : Mode} (code : mode.isCode = true) (insertions : List Nat) (character : Char) :
    step ⟨mode, insertions⟩ character = some (codeStep mode insertions character) := by
  cases mode <;> first | rfl | cases code

theorem finish_code {mode : Mode} (code : mode.isCode = true) :
    finish ⟨mode, []⟩ = some mode.pending := by
  cases mode <;> first | rfl | cases code

theorem extend?_isCode {mode longer : Mode} {character : Char}
    (extended : mode.extend? character = some (tokens, longer)) : longer.isCode = true := by
  cases mode with
  | word text | numeral text =>
      simp only [Mode.extend?, Option.ite_none_right_eq_some, Option.some.injEq, Prod.mk.injEq] at extended
      obtain ⟨_, _, rfl⟩ := extended
      rfl
  | punctuator text =>
      simp only [Mode.extend?] at extended
      split at extended
      · cases extended
        rfl
      · split at extended <;> cases extended
        rfl
  | between | slash | lineComment | blockComment | string | stringEscape | template | templateEscape
  | templateDollar => cases extended

theorem start_plain {character : Char} (plain : isPlain character = true) :
    ∃ tokens mode, mode.isCode = true ∧ ∀ insertions, insertions = [] ∨ isCurly character = false →
      start insertions character = (tokens, ⟨mode, insertions⟩) := by
  have unmarked : character ≠ '/' ∧ character ≠ '\'' ∧ character ≠ '"' ∧ character ≠ '\x60' := by
    refine ⟨?_, ?_, ?_, ?_⟩ <;> (rintro rfl; exact absurd plain (by decide))
  obtain ⟨slash, apostrophe, quote, backquote⟩ := unmarked
  by_cases curly : isCurly character = true
  · refine ⟨[.punctuator [character]], .between, rfl, ?_⟩
    rintro insertions (rfl | noCurly)
    · have bracket : character = '\x7b' ∨ character = '\x7d' := by simpa [isCurly] using curly
      rcases bracket with rfl | rfl <;> rfl
    · rw [noCurly] at curly
      cases curly
  · have noCurly : character ≠ '\x7b' ∧ character ≠ '\x7d' := by simpa [isCurly] using curly
    simp only [start, slash, apostrophe, quote, backquote, noCurly, decide_false, Bool.or_false,
      Bool.false_eq_true, if_false]
    split
    · exact ⟨_, _, rfl, fun _ _ => rfl⟩
    split
    · exact ⟨_, _, rfl, fun _ _ => rfl⟩
    split
    · exact ⟨_, _, rfl, fun _ _ => rfl⟩
    split
    · exact ⟨_, _, rfl, fun _ _ => rfl⟩
    split
    · exact ⟨_, _, rfl, fun _ _ => rfl⟩
    · exact ⟨_, _, rfl, fun _ _ => rfl⟩

theorem codeStep_plain (mode : Mode) {character : Char} (plain : isPlain character = true) :
    ∃ tokens next, next.isCode = true ∧ ∀ insertions, insertions = [] ∨ isCurly character = false →
      codeStep mode insertions character = (tokens, ⟨next, insertions⟩) := by
  simp only [codeStep]
  cases extended : mode.extend? character with
  | some longer => exact ⟨_, _, extend?_isCode extended, fun _ _ => rfl⟩
  | none =>
      obtain ⟨tokens, next, code, starts⟩ := start_plain plain
      refine ⟨mode.pending ++ tokens, next, code, ?_⟩
      intro insertions allowed
      simp only [starts insertions allowed]

theorem code_of_isSpace {character : Char} (space : isSpace character = true) :
    (9 ≤ character.toNat ∧ character.toNat ≤ 13) ∨ character.toNat = 32 ∨ 128 ≤ character.toNat := by
  have small : ∀ code < 128, spaceRanges.contains code = true →
      (9 ≤ code ∧ code ≤ 13) ∨ code = 32 := by decide
  by_cases bound : character.toNat < 128
  · have := small character.toNat bound space
    omega
  · omega

theorem code_of_isIdentifierPart {character : Char} (part : isIdentifierPart character = true) :
    33 ≤ character.toNat ∧ character.toNat < 128 := by
  delta isIdentifierPart isIdentifierStart Char.isAlpha Char.isUpper Char.isLower at part
  simp only [Char.isDigit, Bool.or_eq_true, Bool.and_eq_true, decide_eq_true_eq,
    UInt32.le_iff_toNat_le] at part
  rcases part with (((⟨least, most⟩ | ⟨least, most⟩) | rfl) | rfl) | ⟨least, most⟩
  · change 65 ≤ character.toNat at least
    change character.toNat ≤ 90 at most
    omega
  · change 97 ≤ character.toNat at least
    change character.toNat ≤ 122 at most
    omega
  · decide
  · decide
  · change 48 ≤ character.toNat at least
    change character.toNat ≤ 57 at most
    omega

theorem isWordPart_boundary {character : Char} (boundary : isBoundary character = true) :
    isWordPart character = false := by
  simp only [isBoundary, Bool.or_eq_true] at boundary
  rcases boundary with space | lone
  · have noPart : isIdentifierPart character = false := by
      rw [Bool.eq_false_iff]
      intro part
      have := code_of_isIdentifierPart part
      have := code_of_isSpace space
      omega
    simp only [isIdentifierPart, Bool.or_eq_false_iff] at noPart
    simp [isWordPart, isWordStart, noPart, space]
  · have free : ∀ character ∈ "()[]\x7b\x7d,;:~".toList, isWordPart character = false := by decide
    exact free character (by simpa [isLone] using lone)

theorem startsPunctuator_boundary {character : Char} (boundary : isBoundary character = true)
    (text : List Char) : startsPunctuator (text ++ [character]) = false := by
  have free : ∀ punctuator ∈ punctuators, ∀ other ∈ punctuator, isBoundary other = false := by
    decide
  simp only [startsPunctuator, List.any_eq_false]
  intro punctuator member starts
  have inside : character ∈ punctuator :=
    (List.isPrefixOf_iff_prefix.mp starts).subset (by simp)
  rw [free punctuator member character inside] at boundary
  cases boundary

theorem extend?_boundary {mode : Mode} {character : Char} (boundary : isBoundary character = true) :
    mode.extend? character = none := by
  have noWord := isWordPart_boundary boundary
  have noDigit : character.isDigit = false := by
    simp only [isWordPart, Bool.or_eq_false_iff] at noWord
    exact noWord.2
  have noSign : character ≠ '.' ∧ character ≠ '+' ∧ character ≠ '-' := by
    refine ⟨?_, ?_, ?_⟩ <;> (rintro rfl; exact absurd boundary (by decide))
  cases mode with
  | word text => simp [Mode.extend?, noWord]
  | numeral text => simp [Mode.extend?, continuesNumeral, noWord, noSign]
  | punctuator text => simp [Mode.extend?, startsPunctuator_boundary boundary, noDigit]
  | between | slash | lineComment | blockComment | string | stringEscape | template | templateEscape
  | templateDollar => rfl

theorem lexFrom_boundary {mode : Mode} (code : mode.isCode = true) {rest : List Char}
    (boundary : Text.StartsWith isBoundary rest) (insertions : List Nat) :
    lexFrom ⟨mode, insertions⟩ rest =
      (lexFrom ⟨.between, insertions⟩ rest).map (mode.pending ++ ·) := by
  obtain ⟨character, others, rfl, isBoundary⟩ := boundary
  cases started : start insertions character with
  | mk tokens next =>
      have apart : step ⟨.between, insertions⟩ character = some (tokens, next) := by
        rw [step_between, started]
      have behind : step ⟨mode, insertions⟩ character = some (mode.pending ++ tokens, next) := by
        rw [step_code code, codeStep, extend?_boundary isBoundary, started]
      rw [lexFrom_cons apart, lexFrom_cons behind, map_append_tokens]

theorem lexFrom_plain (text : List Char) : ∀ mode : Mode, mode.isCode = true →
    (∀ character ∈ text, isPlain character = true) →
    ∃ tokens, lexFrom ⟨mode, []⟩ text = some tokens ∧
      ∀ insertions, insertions = [] ∨ (∀ character ∈ text, isCurly character = false) →
        ∀ rest, Text.StartsWith isBoundary rest →
          lexFrom ⟨mode, insertions⟩ (text ++ rest) =
            (lexFrom ⟨.between, insertions⟩ rest).map (tokens ++ ·) := by
  induction text with
  | nil =>
      intro mode code _
      refine ⟨mode.pending, finish_code code, ?_⟩
      intro insertions _ rest boundary
      exact lexFrom_boundary code boundary insertions
  | cons character others ih =>
      intro mode code plain
      obtain ⟨emitted, next, nextCode, stepped⟩ :=
        codeStep_plain mode (plain character (by simp))
      obtain ⟨tokens, alone, followed⟩ :=
        ih next nextCode fun other member => plain other (by simp [member])
      have steps (insertions : List Nat) (allowed : insertions = [] ∨ isCurly character = false) :
          step ⟨mode, insertions⟩ character = some (emitted, ⟨next, insertions⟩) := by
        rw [step_code code, stepped insertions allowed]
      refine ⟨emitted ++ tokens, ?_, ?_⟩
      · rw [lexFrom_cons (steps [] (.inl rfl)), alone]
        rfl
      · intro insertions allowed rest boundary
        have first : insertions = [] ∨ isCurly character = false :=
          allowed.imp id fun noCurly => noCurly character (by simp)
        have later : insertions = [] ∨ ∀ other ∈ others, isCurly other = false :=
          allowed.imp id fun noCurly other member => noCurly other (by simp [member])
        rw [List.cons_append, lexFrom_cons (steps insertions first),
          followed insertions later rest boundary, map_append_tokens]

/-- Characters of a kind without quotation marks, slashes and curly brackets may stand as they are. -/
theorem isVerbatim_of_kind (kind : Char → Bool) {code : String}
    (marks : ∀ mark ∈ "'\"\x60/\x7b\x7d".toList, kind mark = false)
    (all : ∀ character ∈ code.toList, kind character = true) (inserted : Bool) :
    IsVerbatim inserted code := by
  intro character member
  have isKind := all character member
  constructor
  · simp only [isPlain, Bool.not_eq_true', List.contains_eq_mem, decide_eq_false_iff_not]
    intro mark
    rw [marks character (List.mem_append_left ['\x7b', '\x7d'] mark)] at isKind
    cases isKind
  · intro _
    rw [Bool.eq_false_iff]
    intro curly
    have bracket : character ∈ ['\x7b', '\x7d'] := by simpa [isCurly] using curly
    rw [marks character (List.mem_append_right "'\"\x60/".toList bracket)] at isKind
    cases isKind

theorem isVerbatim_append {inserted : Bool} {first second : String} :
    IsVerbatim inserted (first ++ second) ↔ IsVerbatim inserted first ∧ IsVerbatim inserted second := by
  simp only [IsVerbatim, String.toList_append]
  exact List.forall_mem_append

theorem spells_verbatim {code : String} {inserted : Bool} (verbatim : IsVerbatim inserted code)
    (outside : insertions = [] ∨ inserted = true) :
    Spells insertions code (codeTokens code) := by
  obtain ⟨tokens, alone, followed⟩ :=
    lexFrom_plain code.toList .between rfl fun character member => (verbatim character member).1
  have same : codeTokens code = tokens := by
    rw [codeTokens, lex, alone]
    rfl
  rw [same]
  apply followed
  rcases outside with outside | inserted
  · exact .inl outside
  · exact .inr fun character member => (verbatim character member).2 inserted

end LoadScript.Script
