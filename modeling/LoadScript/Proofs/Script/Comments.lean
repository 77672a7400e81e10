import LoadScript.Proofs.Script.Expressions
import LoadScript.Proofs.Text.LineEnds
import LoadScript.Proofs.Text.Trimming

/-!
Comments are read as nothing, whatever they hold.
-/

namespace LoadScript.Script

variable {insertions : List Nat}

def endedLines (lines : List String) : String := String.join (lines.map (· ++ "\n"))

@[simp] theorem endedLines_nil : endedLines [] = "" := rfl

@[simp] theorem endedLines_cons (line : String) (rest : List String) :
    endedLines (line :: rest) = line ++ "\n" ++ endedLines rest := by
  rw [endedLines, List.map_cons, String.join_cons]
  rfl

theorem endedLines_append (first second : List String) :
    endedLines (first ++ second) = endedLines first ++ endedLines second := by
  induction first with
  | nil => simp
  | cons line rest ih => simp [ih, String.append_assoc]

/-! Comments of one line. -/

theorem endsLine_of_isLineEnd {character : Char} (inLine : Text.endsLine character = false) :
    isLineEnd character = false := by
  simp only [Text.endsLine, List.contains_eq_mem, decide_eq_false_iff_not, List.mem_cons,
    List.not_mem_nil, or_false, not_or] at inLine
  simp [isLineEnd, inLine]

theorem lexFrom_lineComment (run : List Char) (inLine : ∀ character ∈ run, isLineEnd character = false)
    (rest : List Char) : lexFrom ⟨.lineComment, insertions⟩ (run ++ '\n' :: rest) =
      lexFrom ⟨.between, insertions⟩ rest := by
  induction run with
  | nil => exact lexFrom_cons_silent rfl rest
  | cons character others ih =>
      have stepped : step ⟨.lineComment, insertions⟩ character = some ([], ⟨.lineComment, insertions⟩) := by
        simp [step, inLine character (by simp)]
      rw [List.cons_append, lexFrom_cons_silent stepped]
      exact ih fun other member => inLine other (by simp [member])

theorem exists_commentLine (indent line : String) :
    ∃ text, (Text.trimEnd (indent ++ "// " ++ line)).toList = indent.toList ++ '/' :: '/' :: text ∧
      text ⊆ ' ' :: line.toList := by
  have slash : Text.isBlank '/' = false := by decide
  have trimmed := Text.dropEndWhile_append_cons slash (indent.toList ++ ['/']) (' ' :: line.toList)
  refine ⟨Text.dropEndWhile Text.isBlank (' ' :: line.toList), ?_, (Text.dropEndWhile_start _ _).subset⟩
  simpa [Text.trimEnd] using trimmed

theorem exists_of_mem_commentLines {indent text written : String}
    (member : written ∈ commentLines indent text) :
    ∃ behind, written.toList = indent.toList ++ '/' :: '/' :: behind ∧
      ∀ character ∈ behind, isLineEnd character = false := by
  have marked (line : String) (inLine : ∀ character ∈ line.toList, Text.endsLine character = false) :
      ∃ behind, (Text.trimEnd (indent ++ "// " ++ line)).toList = indent.toList ++ '/' :: '/' :: behind ∧
        ∀ character ∈ behind, isLineEnd character = false := by
    obtain ⟨behind, kept, subset⟩ := exists_commentLine indent line
    refine ⟨behind, kept, fun character inside => ?_⟩
    rcases List.mem_cons.mp (subset inside) with rfl | later
    · decide
    · exact endsLine_of_isLineEnd (inLine character later)
  rw [commentLines, List.mem_map] at member
  obtain ⟨line, isLine, rfl⟩ := member
  apply marked
  split at isLine
  · rw [List.mem_singleton.mp isLine]
    exact List.forall_mem_nil _
  · simp only [Text.lines, List.mem_map] at isLine
    obtain ⟨characters, isPiece, rfl⟩ := isLine
    rw [String.toList_ofList]
    exact Text.linesOf_inLine text.toList characters isPiece

theorem reads_commentLines {indent : String} (indented : IsIndent indent) (text : String) :
    Reads insertions (endedLines (commentLines indent text)) [] insertions := by
  have opening : advance ⟨.between, insertions⟩ ['/', '/'] = some ([], ⟨.lineComment, insertions⟩) := rfl
  have reads (line : String) (member : line ∈ commentLines indent text) :
      Reads insertions (line ++ "\n") [] insertions := by
    obtain ⟨behind, kept, inLine⟩ := exists_of_mem_commentLines member
    intro rest
    have characters : (line ++ "\n").toList ++ rest =
        indent.toList ++ (['/', '/'] ++ (behind ++ '\n' :: rest)) := by simp [kept]
    rw [characters, reads_spaces indented, lexFrom_advance opening, lexFrom_lineComment _ inLine]
    simp
  generalize commentLines indent text = lines at reads
  induction lines with
  | nil => exact reads_of_advance rfl
  | cons line others ih =>
      rw [endedLines_cons]
      exact (reads line List.mem_cons_self).append
        (ih fun other member => reads other (List.mem_cons_of_mem line member))

/-! Comments of several lines. -/

def staysInside : (starred : Bool) → List Char → Bool
  | _, [] => true
  | starred, character :: rest =>
      !(starred && character = '/') && staysInside (character = '*') rest

theorem staysInside_append {first : List Char} (second : List Char) : ∀ {starred : Bool},
    staysInside starred (first ++ second) = true → staysInside starred first = true := by
  induction first with
  | nil => intro starred _; rfl
  | cons character others ih =>
      intro starred inside
      rw [List.cons_append, staysInside, Bool.and_eq_true] at inside
      rw [staysInside, Bool.and_eq_true]
      exact ⟨inside.1, ih inside.2⟩

theorem lexFrom_blockComment {last : Char} (plain : last ≠ '*' ∧ last ≠ '/') (text rest : List Char) :
    ∀ starred, staysInside starred text = true →
      lexFrom ⟨.blockComment starred, insertions⟩ (text ++ last :: rest) =
        lexFrom ⟨.blockComment false, insertions⟩ rest := by
  induction text with
  | nil =>
      intro starred _
      apply lexFrom_cons_silent
      simp [step, plain]
  | cons character others ih =>
      intro starred inside
      rw [staysInside, Bool.and_eq_true, Bool.not_eq_true'] at inside
      have stepped : step ⟨.blockComment starred, insertions⟩ character =
          some ([], ⟨.blockComment (character = '*'), insertions⟩) := by
        simp [step, inside.1]
      rw [List.cons_append, lexFrom_cons_silent stepped]
      exact ih _ inside.2

theorem staysInside_spaces {run : List Char} (spaces : ∀ character ∈ run, isSpace character = true)
    (rest : List Char) (inside : staysInside false rest = true) :
    staysInside false (run ++ rest) = true := by
  induction run with
  | nil => exact inside
  | cons character others ih =>
      have noStar : character ≠ '*' := by
        rintro rfl
        exact absurd (spaces '*' (by simp)) (by decide)
      simp only [List.cons_append, staysInside, noStar, decide_false, Bool.false_and, Bool.not_false,
        Bool.true_and]
      exact ih fun other member => spaces other (by simp [member])

theorem staysInside_starred {text : List Char} (noSlash : text.head? ≠ some '/')
    (inside : staysInside false text = true) : staysInside true text = true := by
  cases text with
  | nil => rfl
  | cons character others =>
      have notSlash : character ≠ '/' := by simpa using noSlash
      simpa [staysInside, notSlash] using inside

theorem head?_splitCommentEnds (text : List Char) : (splitCommentEnds text).head? = text.head? := by
  fun_cases splitCommentEnds text <;> rfl

theorem staysInside_splitCommentEnds (text : List Char) :
    staysInside false (splitCommentEnds text) = true := by
  fun_induction splitCommentEnds text with
  | case1 => rfl
  | case2 rest ih => simpa [staysInside] using ih
  | case3 character rest noEnd ih =>
      by_cases star : character = '*'
      · subst star
        have noSlash : (splitCommentEnds rest).head? ≠ some '/' := by
          rw [head?_splitCommentEnds]
          intro first
          cases rest with
          | nil => cases first
          | cons next others =>
              cases first
              exact noEnd others rfl rfl
        simpa [staysInside] using staysInside_starred noSlash ih
      · simpa [staysInside, star] using ih

theorem staysInside_commentLine {indent : String} (indented : IsIndent indent) (line : String) :
    staysInside false (Text.trimEnd
      (indent ++ " * " ++ String.ofList (splitCommentEnds line.toList))).toList = true := by
  have whole : staysInside false (indent.toList ++ (" * ".toList ++ splitCommentEnds line.toList)) =
      true := by
    apply staysInside_spaces indented _
    simpa [staysInside] using staysInside_splitCommentEnds line.toList
  obtain ⟨blanks, characters⟩ := Text.dropEndWhile_start Text.isBlank
    (indent ++ " * " ++ String.ofList (splitCommentEnds line.toList)).toList
  apply staysInside_append blanks
  rw [Text.trimEnd, String.toList_ofList, characters]
  simpa using whole

theorem lexFrom_commentBody {indent : String} (indented : IsIndent indent) (lines : List String)
    (rest : List Char) :
    lexFrom ⟨.blockComment false, insertions⟩ ((endedLines (lines.map fun line =>
        Text.trimEnd (indent ++ " * " ++ String.ofList (splitCommentEnds line.toList)))).toList ++ rest) =
      lexFrom ⟨.blockComment false, insertions⟩ rest := by
  induction lines with
  | nil => rfl
  | cons line others ih =>
      have inside := staysInside_commentLine indented line
      rw [List.map_cons, endedLines_cons, String.toList_append, String.toList_append,
        List.append_assoc, List.append_assoc, show "\n".toList = ['\n'] from rfl, List.cons_append,
        List.nil_append, lexFrom_blockComment (by decide) _ _ false inside, ih]

theorem lexFrom_commentOpening (isDocumentation : Bool) (rest : List Char) :
    lexFrom ⟨.between, insertions⟩
        ((if isDocumentation then "/**" else "/*").toList ++ '\n' :: rest) =
      lexFrom ⟨.blockComment false, insertions⟩ rest := by
  cases isDocumentation with
  | false =>
      have advanced : advance ⟨.between, insertions⟩ "/*\n".toList =
          some ([], ⟨.blockComment false, insertions⟩) := rfl
      simpa using lexFrom_advance advanced rest
  | true =>
      have advanced : advance ⟨.between, insertions⟩ "/**\n".toList =
          some ([], ⟨.blockComment false, insertions⟩) := rfl
      simpa using lexFrom_advance advanced rest

theorem lexFrom_commentClosing (insertions : List Nat) {indent : String} (indented : IsIndent indent)
    (rest : List Char) :
    lexFrom ⟨.blockComment false, insertions⟩ ((indent ++ " */\n").toList ++ rest) =
      lexFrom ⟨.between, insertions⟩ rest := by
  have inside := staysInside_spaces indented [] rfl
  rw [List.append_nil] at inside
  have closing : advance ⟨.blockComment false, insertions⟩ "*/\n".toList =
      some ([], ⟨.between, insertions⟩) := rfl
  have characters : (indent ++ " */\n").toList ++ rest =
      indent.toList ++ ' ' :: ("*/\n".toList ++ rest) := by simp
  rw [characters, lexFrom_blockComment (by decide) _ _ false inside, lexFrom_advance closing]
  simp

theorem reads_blockComment {indent : String} (indented : IsIndent indent) (isDocumentation : Bool)
    (lines : List String) :
    Reads insertions (endedLines (blockCommentLines indent isDocumentation lines)) [] insertions := by
  intro rest
  rw [blockCommentLines, endedLines_append, endedLines_cons, endedLines_cons, endedLines_nil]
  simp only [String.toList_append, List.append_assoc, show "\n".toList = ['\n'] from rfl,
    List.cons_append, List.nil_append]
  rw [reads_spaces indented, lexFrom_commentOpening, lexFrom_commentBody indented]
  have closing := lexFrom_commentClosing insertions indented rest
  simp only [String.toList_append] at closing
  simpa using closing

end LoadScript.Script
