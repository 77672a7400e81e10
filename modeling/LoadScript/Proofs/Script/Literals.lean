import LoadScript.Proofs.Script.Lexing
import LoadScript.Script.Value

/-!
The text of a literal is read to the end of the literal and no further, whatever it holds.
-/

namespace LoadScript.Script

variable {insertions : List Nat}

/-! Strings. -/

theorem lexFrom_string_plain {character : Char} (inLine : isLineEnd character = false)
    (notMark : character ≠ '\'') (notEscape : character ≠ '\\') (content rest : List Char) :
    lexFrom ⟨.string '\'' content, insertions⟩ (character :: rest) =
      lexFrom ⟨.string '\'' (content ++ [character]), insertions⟩ rest := by
  apply lexFrom_cons_silent
  simp [step, inLine, notMark, notEscape]

theorem lexFrom_string_escape {character : Char} (inLine : isLineEnd character = false)
    (content rest : List Char) :
    lexFrom ⟨.string '\'' content, insertions⟩ ('\\' :: character :: rest) =
      lexFrom ⟨.string '\'' (content ++ ['\\', character]), insertions⟩ rest := by
  have first : step ⟨.string '\'' content, insertions⟩ '\\' =
      some ([], ⟨.stringEscape '\'' content, insertions⟩) := rfl
  rw [lexFrom_cons_silent first]
  apply lexFrom_cons_silent
  simp [step, inLine]

theorem lexFrom_string_run (run : List Char) (plain : ∀ character ∈ run,
      isLineEnd character = false ∧ character ≠ '\'' ∧ character ≠ '\\') : ∀ content rest,
    lexFrom ⟨.string '\'' content, insertions⟩ (run ++ rest) =
      lexFrom ⟨.string '\'' (content ++ run), insertions⟩ rest := by
  induction run with
  | nil => intro content rest; simp
  | cons character others ih =>
      intro content rest
      obtain ⟨inLine, notMark, notEscape⟩ := plain character (by simp)
      rw [List.cons_append, lexFrom_string_plain inLine notMark notEscape,
        ih fun other member => plain other (by simp [member])]
      simp

theorem quotedChar_cases (character : Char) :
    (∃ sign, quotedChar character = ['\\', sign] ∧ isLineEnd sign = false ∧ sign ≠ 'u' ∧
      escapedChar? sign = some character) ∨
    (∃ last, quotedChar character = ['\\', 'u', '2', '0', '2', last] ∧ (last = '8' ∨ last = '9') ∧
      unitChar? ['2', '0', '2', last] = some character) ∨
    (quotedChar character = [character] ∧ isLineEnd character = false ∧ character ≠ '\'' ∧
      character ≠ '\\') := by
  by_cases escape : character = '\\'
  · subst escape
    exact .inl ⟨'\\', by decide⟩
  by_cases mark : character = '\''
  · subst mark
    exact .inl ⟨'\'', by decide⟩
  by_cases feed : character = '\n'
  · subst feed
    exact .inl ⟨'n', by decide⟩
  by_cases carriage : character = '\r'
  · subst carriage
    exact .inl ⟨'r', by decide⟩
  by_cases separator : character.toNat = 0x2028
  · have same : character = Char.ofNat 0x2028 := Char.toNat_inj.mp separator
    subst same
    exact .inr (.inl ⟨'8', by decide⟩)
  by_cases paragraph : character.toNat = 0x2029
  · have same : character = Char.ofNat 0x2029 := Char.toNat_inj.mp paragraph
    subst same
    exact .inr (.inl ⟨'9', by decide⟩)
  have noFeed : character.toNat ≠ 0x0A := fun code => feed (Char.toNat_inj.mp code)
  have noCarriage : character.toNat ≠ 0x0D := fun code => carriage (Char.toNat_inj.mp code)
  refine .inr (.inr ⟨?_, ?_, mark, escape⟩)
  · simp [quotedChar, escape, mark, feed, carriage, separator, paragraph]
  · simp [isLineEnd, noFeed, noCarriage, separator, paragraph]

theorem lexFrom_quotedChar (character : Char) (content rest : List Char) :
    lexFrom ⟨.string '\'' content, insertions⟩ (quotedChar character ++ rest) =
      lexFrom ⟨.string '\'' (content ++ quotedChar character), insertions⟩ rest := by
  rcases quotedChar_cases character with
    ⟨sign, spelled, inLine, -⟩ | ⟨last, spelled, digit, -⟩ | ⟨spelled, inLine, notMark, notEscape⟩
  · rw [spelled]
    exact lexFrom_string_escape inLine content rest
  · have plain : ∀ other ∈ ['2', '0', '2', last],
        isLineEnd other = false ∧ other ≠ '\'' ∧ other ≠ '\\' := by
      rcases digit with rfl | rfl <;> decide
    rw [spelled, List.cons_append, List.cons_append, lexFrom_string_escape (by decide), lexFrom_string_run _ plain]
    simp
  · rw [spelled]
    exact lexFrom_string_plain inLine notMark notEscape content rest

theorem lexFrom_quoted (value : List Char) : ∀ content rest,
    lexFrom ⟨.string '\'' content, insertions⟩ (value.flatMap quotedChar ++ rest) =
      lexFrom ⟨.string '\'' (content ++ value.flatMap quotedChar), insertions⟩ rest := by
  induction value with
  | nil => intro content rest; simp
  | cons character others ih =>
      intro content rest
      rw [List.flatMap_cons, List.append_assoc, lexFrom_quotedChar, ih, List.append_assoc]

theorem reads_quote (value : String) :
    Reads insertions (quote value) [stringToken value] insertions := by
  intro rest
  have opening : step ⟨.between, insertions⟩ '\'' = some ([], ⟨.string '\'' [], insertions⟩) := rfl
  rw [quote, String.toList_ofList, List.cons_append, List.cons_append, lexFrom_cons_silent opening,
    List.append_assoc, lexFrom_quoted]
  exact lexFrom_cons rfl rest

/-! Templates. -/

variable {opens : Bool}

theorem lexFrom_template_plain {character : Char} (notMark : character ≠ '\x60')
    (notEscape : character ≠ '\\') (notDollar : character ≠ '$') (content rest : List Char) :
    lexFrom ⟨.template opens content, insertions⟩ (character :: rest) =
      lexFrom ⟨.template opens (content ++ [character]), insertions⟩ rest := by
  apply lexFrom_cons_silent
  simp [step, templateMode, notMark, notEscape, notDollar]

theorem lexFrom_template_escape (character : Char) (content rest : List Char) :
    lexFrom ⟨.template opens content, insertions⟩ ('\\' :: character :: rest) =
      lexFrom ⟨.template opens (content ++ ['\\', character]), insertions⟩ rest := by
  have first : step ⟨.template opens content, insertions⟩ '\\' =
      some ([], ⟨.templateEscape opens content, insertions⟩) := rfl
  rw [lexFrom_cons_silent first]
  exact lexFrom_cons_silent rfl rest

theorem lexFrom_template_dollar (content : List Char) {rest : List Char}
    (noBracket : rest.head? ≠ some '\x7b') :
    lexFrom ⟨.template opens content, insertions⟩ ('$' :: rest) =
      lexFrom ⟨.template opens (content ++ ['$']), insertions⟩ rest := by
  have first : step ⟨.template opens content, insertions⟩ '$' =
      some ([], ⟨.templateDollar opens content, insertions⟩) := rfl
  rw [lexFrom_cons_silent first]
  cases rest with
  | nil => simp [lexFrom, finish]
  | cons character others =>
      have notBracket : character ≠ '\x7b' := by simpa using noBracket
      have same : step ⟨.templateDollar opens content, insertions⟩ character =
          step ⟨.template opens (content ++ ['$']), insertions⟩ character := by
        simp [step, notBracket]
      rw [lexFrom, lexFrom, same]

theorem head?_templateChars {value rest : List Char} (noBracket : value = [] → rest.head? ≠ some '\x7b')
    (notFirst : value.head? ≠ some '\x7b') : (templateChars value ++ rest).head? ≠ some '\x7b' := by
  fun_cases templateChars value with
  | case1 => exact noBracket rfl
  | case2 others => simp
  | case3 character others _ special => simp
  | case4 character others _ plain => simpa using notFirst

/-- The text of a template stays text, nothing in it ends the literal or starts an insertion, as long as no
curly bracket comes behind a dollar sign at its end. -/
theorem lexFrom_templateChars {rest : List Char} (value : List Char)
    (apart : value.getLast? = some '$' → rest.head? ≠ some '\x7b') : ∀ content,
    lexFrom ⟨.template opens content, insertions⟩ (templateChars value ++ rest) =
      lexFrom ⟨.template opens (content ++ templateChars value), insertions⟩ rest := by
  fun_induction templateChars value with
  | case1 => intro content; simp
  | case2 others ih =>
      intro content
      have next (content : List Char) :
          lexFrom ⟨.template opens content, insertions⟩ ('\x7b' :: (templateChars others ++ rest)) =
            lexFrom ⟨.template opens (content ++ ['\x7b']), insertions⟩ (templateChars others ++ rest) :=
        lexFrom_template_plain (by decide) (by decide) (by decide) content _
      simp only [List.cons_append]
      rw [lexFrom_template_escape, next, ih fun last => apart (by simp [List.getLast?_cons, last])]
      simp
  | case3 character others _ special ih =>
      intro content
      simp only [List.cons_append]
      rw [lexFrom_template_escape, ih fun last => apart (by simp [List.getLast?_cons, last])]
      simp
  | case4 character others notInsertion plain ih =>
      intro content
      simp only [Bool.or_eq_true, decide_eq_true_eq, not_or] at plain
      have later := ih fun last => apart (by simp [List.getLast?_cons, last])
      rw [List.cons_append]
      by_cases dollar : character = '$'
      · subst dollar
        have notFirst : others.head? ≠ some '\x7b' := by
          intro first
          obtain ⟨behind, rfl⟩ := List.head?_eq_some_iff.mp first
          exact notInsertion behind rfl rfl
        have noBracket : others = [] → rest.head? ≠ some '\x7b' := by
          rintro rfl
          exact apart rfl
        rw [lexFrom_template_dollar content (head?_templateChars noBracket notFirst), later]
        simp
      · rw [lexFrom_template_plain plain.2 plain.1 dollar, later]
        simp

end LoadScript.Script
