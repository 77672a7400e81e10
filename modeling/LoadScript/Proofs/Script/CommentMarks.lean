import LoadScript.Proofs.Script.Statements

/-!
Comments end where they are meant to. Every line of a comment of single lines has its mark, whatever an engine
takes for a line end, and a comment of several lines closes with its last two characters and not before.
-/

namespace LoadScript.Script

def stmtText (unit : String) (level : Int) (stmt : Stmt) : String :=
  String.intercalate "\n" (stmtLines unit level stmt)

def scriptLines (text : String) : List (List Char) := text.toList.splitOnP isLineEnd

def ClosesWith (mark text : List Char) : Prop :=
  mark <:+ text ∧ ∀ before after, text = before ++ mark ++ after → after = []

def IsMargin (unit : String) : Prop := ∀ character ∈ unit.toList, character = ' ' ∨ character = '\t'

instance (unit : String) : Decidable (IsMargin unit) := List.decidableBAll _ unit.toList

def Stmt.isComment : Stmt → Bool
  | .comment _ | .blockComment .. => true
  | _ => false

variable {unit indent : String} {level : Int}

theorem IsMargin.isIndent (margin : IsMargin unit) : IsIndent unit := by
  intro character member
  rcases margin character member with rfl | rfl <;> decide

theorem IsMargin.padding (margin : IsMargin unit) (level : Int) : IsMargin (padding unit level) :=
  fun character member => margin character (mem_of_mem_padding member)

theorem IsMargin.inLine (margin : IsMargin unit) :
    ∀ character ∈ unit.toList, isLineEnd character = false := by
  intro character member
  rcases margin character member with rfl | rfl <;> decide

/-! Comments of single lines. -/

theorem scriptLines_intercalate {lines : List String} (nonempty : lines ≠ [])
    (inLine : ∀ line ∈ lines, ∀ character ∈ line.toList, isLineEnd character = false) :
    scriptLines (String.intercalate "\n" lines) = lines.map String.toList := by
  have feed : isLineEnd '\n' = true := by decide
  rw [scriptLines]
  induction lines with
  | nil => contradiction
  | cons line rest ih =>
      rw [List.forall_mem_cons] at inLine
      cases rest with
      | nil => simpa using List.splitOnP_eq_singleton inLine.1
      | cons next rest =>
          have characters : (String.intercalate "\n" (line :: next :: rest)).toList =
              line.toList ++ '\n' :: (String.intercalate "\n" (next :: rest)).toList := by
            simp [String.intercalate_cons_cons]
          rw [characters, List.splitOnP_append_cons_of_forall_mem inLine.1 '\n' feed,
            ih (List.cons_ne_nil _ _) inLine.2]
          rfl

theorem commentLines_ne_nil (indent text : String) : commentLines indent text ≠ [] := by
  rw [commentLines]
  split
  · simp
  · next nonempty => simpa using nonempty

/-- The mark behind the indentation starts every line that an engine sees. -/
theorem marked_of_mem_scriptLines (margin : IsMargin unit) (text : String) :
    ∀ line ∈ scriptLines (stmtText unit level (.comment text)),
      (padding unit level).toList ++ ['/', '/'] <+: line := by
  have inLine : ∀ line ∈ commentLines (padding unit level) text, ∀ character ∈ line.toList,
      isLineEnd character = false := by
    intro line member character inside
    obtain ⟨behind, kept, clear⟩ := exists_of_mem_commentLines member
    simp only [kept, List.mem_append, List.mem_cons] at inside
    rcases inside with indented | rfl | rfl | later
    · exact (margin.padding level).inLine character indented
    · decide
    · decide
    · exact clear character later
  rw [stmtText, stmtLines, scriptLines_intercalate (commentLines_ne_nil _ text) inLine]
  intro line member
  obtain ⟨written, isLine, rfl⟩ := List.mem_map.mp member
  obtain ⟨behind, kept, _⟩ := exists_of_mem_commentLines isLine
  exact ⟨behind, by simp [kept]⟩

/-! Comments of several lines. -/

theorem staysInside_mark (before after : List Char) : ∀ starred,
    staysInside starred (before ++ ['*', '/'] ++ after) = false := by
  induction before with
  | nil => intro starred; cases starred <;> rfl
  | cons character rest ih =>
      intro starred
      rw [List.cons_append, List.cons_append, staysInside, ih, Bool.and_false]

theorem staysInside_line {last : Char} (plain : last ≠ '*' ∧ last ≠ '/') (line rest : List Char) :
    ∀ starred, staysInside starred (line ++ last :: rest) =
      (staysInside starred line && staysInside false rest) := by
  induction line with
  | nil => intro starred; simp [staysInside, plain]
  | cons character line ih =>
      intro starred
      rw [List.cons_append, staysInside, staysInside, ih, Bool.and_assoc]

theorem staysInside_endedLines {lines : List String}
    (inside : ∀ line ∈ lines, staysInside false line.toList = true) (rest : List Char) :
    staysInside false ((endedLines lines).toList ++ rest) = staysInside false rest := by
  induction lines with
  | nil => simp
  | cons line lines ih =>
      rw [List.forall_mem_cons] at inside
      have characters : (endedLines (line :: lines)).toList ++ rest =
          line.toList ++ '\n' :: ((endedLines lines).toList ++ rest) := by simp
      rw [characters, staysInside_line (by decide), inside.1, ih inside.2, Bool.true_and]

/-- A text in which nothing closes the comment before the slash at its end. -/
theorem closesWith_of_staysInside {text : List Char} (inside : staysInside false (text ++ ['*']) = true) :
    ClosesWith ['*', '/'] (text ++ ['*', '/']) := by
  refine ⟨List.suffix_append text _, fun before after same => ?_⟩
  rcases List.eq_nil_or_concat after with rfl | ⟨start, last, rfl⟩
  · rfl
  · -- A mark before the last character would lie in the part that stays inside.
    have split : (text ++ ['*']) ++ ['/'] = (before ++ ['*', '/'] ++ start) ++ [last] := by
      simpa using same
    rw [(List.append_inj' split rfl).1, staysInside_mark] at inside
    cases inside

theorem intercalate_concat (lines : List String) (last : String) :
    String.intercalate "\n" (lines ++ [last]) = endedLines lines ++ last := by
  induction lines with
  | nil => simp
  | cons line rest ih =>
      rw [endedLines_cons, String.append_assoc, ← ih]
      cases rest with
      | nil => simp [String.intercalate_cons_cons]
      | cons next rest => rw [List.cons_append, List.cons_append, String.intercalate_cons_cons]

theorem intercalate_ended {lines : List String} (nonempty : lines ≠ []) :
    String.intercalate "\n" lines ++ "\n" = endedLines lines := by
  cases lines with
  | nil => contradiction
  | cons line rest => exact intercalate_feeds rest line

theorem closesWith_blockComment (indented : IsIndent indent) (lines : List String)
    (isDocumentation : Bool) :
    ClosesWith ['*', '/']
      (String.intercalate "\n" (blockCommentLines indent isDocumentation lines)).toList := by
  have opening : staysInside false (indent ++ if isDocumentation then "/**" else "/*").toList = true := by
    rw [String.toList_append]
    apply staysInside_spaces indented
    cases isDocumentation <;> rfl
  have closing : staysInside false (indent.toList ++ [' ', '*']) = true :=
    staysInside_spaces indented _ rfl
  rw [blockCommentLines, intercalate_concat]
  set before := endedLines ((indent ++ if isDocumentation then "/**" else "/*") :: _) with isBefore
  have inside : staysInside false (before.toList ++ (indent.toList ++ [' ', '*'])) = true := by
    rw [isBefore, staysInside_endedLines _ _, closing]
    refine List.forall_mem_cons.mpr ⟨opening, fun written member => ?_⟩
    obtain ⟨line, _, rfl⟩ := List.mem_map.mp member
    exact staysInside_commentLine indented line
  have stays : staysInside false ((before.toList ++ indent.toList ++ [' ']) ++ ['*']) = true := by
    simpa using inside
  simpa using closesWith_of_staysInside stays

/-- Comments stay comments, whatever stands in them, at every level and with every indentation. -/
theorem comments_stay_comments (margin : IsMargin unit) (level : Int) :
    (∀ text, ∀ line ∈ scriptLines (stmtText unit level (.comment text)),
      (padding unit level).toList ++ ['/', '/'] <+: line) ∧
    (∀ lines isDocumentation,
      ClosesWith ['*', '/'] (stmtText unit level (.blockComment lines isDocumentation)).toList) ∧
    ∀ stmt : Stmt, stmt.isComment = true → Reads [] (stmtText unit level stmt ++ "\n") [] [] := by
  have indented := isIndent_padding margin.isIndent level
  refine ⟨marked_of_mem_scriptLines margin, ?_, ?_⟩
  · intro lines isDocumentation
    rw [stmtText, stmtLines]
    exact closesWith_blockComment indented lines isDocumentation
  · intro stmt isComment
    cases stmt with
    | comment text =>
        rw [stmtText, stmtLines, intercalate_ended (commentLines_ne_nil _ text)]
        exact reads_commentLines indented text
    | blockComment lines isDocumentation =>
        rw [stmtText, stmtLines, intercalate_ended (by simp [blockCommentLines])]
        exact reads_blockComment indented isDocumentation lines
    | _ => cases isComment

theorem comments_stay_comments_hostile :
    IsMargin " \t" ∧
      (∀ line ∈ scriptLines (stmtText " \t" 2 (.comment "a\r\n*/ evil()\u2028\u2029b\x0c")),
        [' ', '\t', ' ', '\t', '/', '/'] <+: line) ∧
      ClosesWith ['*', '/']
        (stmtText " \t" 2 (.blockComment ["/", "**//", "a*", "/ evil() /*\n*/"] true)).toList := by
  have margin : IsMargin " \t" := by decide
  obtain ⟨marked, closes, _⟩ := comments_stay_comments margin 2
  exact ⟨margin, marked _, closes _ true⟩

end LoadScript.Script
