import LoadScript.Compile.Assembly
import LoadScript.Proofs.Script.CommentMarks
import LoadScript.Proofs.Shell.Words

/-!
The hint how to run a script. A shell reads it as the variables of the profile with their values, as long as
nothing in a value starts an expansion.
-/

namespace LoadScript.Compile

open Script Shell

def settings (entries : List Variable) : List String :=
  entries.flatMap fun entry => ["-e", entry.key ++ "=" ++ entry.value]

theorem shellQuoted_toList (value : String) :
    (Job.shellQuoted value).toList = '"' :: (value.toList.flatMap escapedChar ++ ['"']) := by
  rw [Job.shellQuoted, String.toList_ofList]
  rfl

theorem foldlM_setting (words : List (List Char)) {entry : Variable} (bare : IsBare entry.key) :
    ("-e " ++ entry.key ++ "=" ++ Job.shellQuoted entry.value).toList.foldlM State.step ⟨words, none, .bare⟩ =
      if entry.value.toList.any startsExpansion then none
      else some ⟨words ++ [['-', 'e']], some (entry.key ++ "=" ++ entry.value).toList, .bare⟩ := by
  have named : ∀ character ∈ (entry.key ++ "=").toList, isMark character = false := by
    rw [String.toList_append]
    exact List.forall_mem_append.mpr ⟨bare, by decide⟩
  have characters : ("-e " ++ entry.key ++ "=" ++ Job.shellQuoted entry.value).toList =
      ['-', 'e', ' '] ++ ((entry.key ++ "=").toList ++
        ('"' :: (entry.value.toList.flatMap escapedChar ++ ['"']))) := by
    simp [shellQuoted_toList]
  have opened (word : List Char) : State.step ⟨words ++ [['-', 'e']], some word, .bare⟩ '"' =
      some ⟨words ++ [['-', 'e']], some word, .double⟩ := by simp [State.step, State.push]
  have closed (word : List Char) : State.step ⟨words ++ [['-', 'e']], some word, .double⟩ '"' =
      some ⟨words ++ [['-', 'e']], some word, .bare⟩ := by simp [State.step]
  have flag : ['-', 'e', ' '].foldlM State.step ⟨words, none, .bare⟩ =
      some ⟨words ++ [['-', 'e']], none, .bare⟩ := rfl
  rw [characters, List.foldlM_append, flag, Option.bind_eq_bind, Option.bind_some, List.foldlM_append,
    foldlM_bare named (by simp), Option.bind_eq_bind, Option.bind_some, List.foldlM_cons, opened,
    Option.bind_eq_bind, Option.bind_some, List.foldlM_append, foldlM_escaped]
  by_cases expands : entry.value.toList.any startsExpansion = true
  · simp [expands]
  · simp [expands, closed]

theorem overrides_cons_cons (entry next : Variable) (rest : List Variable) :
    (Job.overrides (entry :: next :: rest)).toList =
      ("-e " ++ entry.key ++ "=" ++ Job.shellQuoted entry.value).toList ++
        (' ' :: (Job.overrides (next :: rest)).toList) := by
  simp [Job.overrides, String.intercalate_cons_cons]

/-- The words of the hint are the arguments, unless a value starts an expansion: then it is no list of words. -/
theorem wordsFrom_overrides {entries : List Variable} (bare : ∀ entry ∈ entries, IsBare entry.key)
    (words : List (List Char)) :
    wordsFrom ⟨words, none, .bare⟩ (Job.overrides entries).toList =
      if entries.any fun entry => entry.value.toList.any startsExpansion then none
      else some (words ++ (settings entries).map String.toList) := by
  induction entries generalizing words with
  | nil => simp [wordsFrom, Job.overrides, State.finish?, settings]
  | cons entry rest ih =>
      rw [List.forall_mem_cons] at bare
      have blank (word : List Char) : State.step ⟨words ++ [['-', 'e']], some word, .bare⟩ ' ' =
          some ⟨words ++ [['-', 'e'], word], none, .bare⟩ := by simp [State.step]
      cases rest with
      | nil =>
          rw [Job.overrides, List.map_singleton, String.intercalate_singleton, wordsFrom,
            foldlM_setting words bare.1]
          by_cases expands : entry.value.toList.any startsExpansion = true
          · simp [expands]
          · simp [expands, State.finish?, settings]
      | cons next rest =>
          rw [overrides_cons_cons, wordsFrom_append, foldlM_setting words bare.1]
          by_cases expands : entry.value.toList.any startsExpansion = true
          · simp [expands]
          · have others := ih bare.2 (words ++ [['-', 'e'], (entry.key ++ "=" ++ entry.value).toList])
            rw [if_neg expands, Option.bind_some, wordsFrom, List.foldlM_cons, blank]
            rw [wordsFrom] at others
            rw [Option.bind_eq_bind, Option.bind_some, others]
            simp [expands, settings]

/-! The line of the hint. -/

def IsOneLine (text : String) : Prop := ∀ character ∈ text.toList, Text.endsLine character = false

instance (text : String) : Decidable (IsOneLine text) := List.decidableBAll _ text.toList

/-- A variable that can stand in the hint: its key needs no quotes, and neither key nor value ends the line. -/
structure IsHinted (entry : Variable) : Prop where
  bare : IsBare entry.key
  key : IsOneLine entry.key
  value : IsOneLine entry.value

theorem isOneLine_append {first second : String} (firstLine : IsOneLine first) (secondLine : IsOneLine second) :
    IsOneLine (first ++ second) := by
  rw [IsOneLine, String.toList_append]
  exact List.forall_mem_append.mpr ⟨firstLine, secondLine⟩

theorem isOneLine_shellQuoted {value : String} (line : IsOneLine value) :
    IsOneLine (Job.shellQuoted value) := by
  intro character member
  rw [shellQuoted_toList, List.mem_cons, List.mem_append, List.mem_flatMap, List.mem_singleton] at member
  rcases member with rfl | ⟨source, inside, escaped⟩ | rfl
  · decide
  · rw [escapedChar] at escaped
    split at escaped
    · rcases List.mem_pair.mp escaped with rfl | rfl
      · decide
      · exact line character inside
    · rw [List.mem_singleton.mp escaped]
      exact line source inside
  · decide

theorem isOneLine_overrides {entries : List Variable} (hinted : ∀ entry ∈ entries, IsHinted entry) :
    IsOneLine (Job.overrides entries) := by
  have setting {entry : Variable} (fits : IsHinted entry) :
      IsOneLine ("-e " ++ entry.key ++ "=" ++ Job.shellQuoted entry.value) :=
    isOneLine_append (isOneLine_append (isOneLine_append (by decide) fits.key) (by decide))
      (isOneLine_shellQuoted fits.value)
  induction entries with
  | nil => decide
  | cons entry rest ih =>
      rw [List.forall_mem_cons] at hinted
      cases rest with
      | nil =>
          rw [Job.overrides, List.map_singleton, String.intercalate_singleton]
          exact setting hinted.1
      | cons next rest =>
          rw [IsOneLine, overrides_cons_cons, List.forall_mem_append, List.forall_mem_cons]
          exact ⟨setting hinted.1, by decide, ih hinted.2⟩

theorem exists_overrides_concat {entries : List Variable} (nonempty : entries ≠ []) :
    ∃ text, (Job.overrides entries).toList = text ++ ['"'] := by
  have setting (entry : Variable) :
      ∃ text, ("-e " ++ entry.key ++ "=" ++ Job.shellQuoted entry.value).toList = text ++ ['"'] := by
    refine ⟨("-e " ++ entry.key ++ "=").toList ++ '"' :: entry.value.toList.flatMap escapedChar, ?_⟩
    simp [shellQuoted_toList]
  induction entries with
  | nil => contradiction
  | cons entry rest ih =>
      cases rest with
      | nil =>
          rw [Job.overrides, List.map_singleton, String.intercalate_singleton]
          exact setting entry
      | cons next rest =>
          obtain ⟨text, whole⟩ := ih (List.cons_ne_nil _ _)
          rw [overrides_cons_cons, whole]
          exact ⟨_, (List.append_assoc _ (' ' :: text) ['"']).symm⟩

/-- The closing quote ends the hint, so that nothing is trimmed from a line that ends with it. -/
theorem trimEnd_overrides {entries : List Variable} (nonempty : entries ≠ []) (front : String) :
    Text.trimEnd (front ++ Job.overrides entries) = front ++ Job.overrides entries := by
  obtain ⟨start, ended⟩ := exists_overrides_concat nonempty
  have quote : Text.isBlank '"' = false := by decide
  have nothing : Text.dropEndWhile Text.isBlank [] = [] := rfl
  have stays := Text.dropEndWhile_append_cons quote (front.toList ++ start) []
  rw [nothing, List.append_assoc, ← ended, ← String.toList_append] at stays
  rw [Text.trimEnd, stays, String.ofList_toList]

theorem stmtText_comment {text : String} {before : List (List Char)} {last : List Char}
    (lines : Text.linesOf text.toList = before ++ [last]) :
    stmtText standardUnit 0 (.comment text) =
      endedLines (before.map fun line => Text.trimEnd ("// " ++ String.ofList line)) ++
        Text.trimEnd ("// " ++ String.ofList last) := by
  have written : Text.lines text = before.map String.ofList ++ [String.ofList last] := by
    rw [Text.lines, lines, List.map_append, List.map_singleton]
  have nonempty : before.map String.ofList ++ [String.ofList last] ≠ [] := by simp
  have noPadding : padding standardUnit 0 = "" := rfl
  rw [stmtText, stmtLines, commentLines, written]
  split
  · contradiction
  · rw [List.map_append, List.map_singleton, intercalate_concat, noPadding, List.map_map]
    simp only [String.empty_append, Function.comp_def]

namespace Job

/-- The comment of the hint is what stands in front of it, which depends on the name of the script only, and the
hint itself. -/
theorem exists_hintFront (scriptName : String) :
    ∃ front, (IsOneLine scriptName → front = "// Run with: k6 run " ++ scriptName ++ " ") ∧
      ∀ entries : List Variable, entries ≠ [] → (∀ entry ∈ entries, IsHinted entry) →
        stmtText standardUnit 0 (.comment ("Run with: k6 run " ++ scriptName ++ " " ++ overrides entries)) =
          front ++ overrides entries := by
  have blankInside : Text.endsLine ' ' = false := by decide
  -- A name with line ends parts the comment, and the hint stands on the last of its lines.
  obtain ⟨before, last, goesOn⟩ :=
    Text.exists_linesOf_append blankInside ("Run with: k6 run " ++ scriptName).toList
  let shown := before.map fun line => Text.trimEnd ("// " ++ String.ofList line)
  refine ⟨endedLines shown ++ "// " ++ String.ofList last ++ " ", ?_, ?_⟩
  · intro line
    have opening : ("Run with: k6 run " ++ scriptName).toList = 'R' :: ("un with: k6 run " ++ scriptName).toList := by
      simp
    have whole : ∀ other ∈ ("Run with: k6 run " ++ scriptName ++ " ").toList, Text.endsLine other = false :=
      isOneLine_append (isOneLine_append (by decide) line) (by decide)
    have single := goesOn [] (List.forall_mem_nil _)
    rw [String.toList_append, opening, List.cons_append] at whole
    rw [opening, List.cons_append, show [' '] = " ".toList from rfl, Text.linesOf_line whole] at single
    rcases List.append_eq_singleton_iff.mp single.symm with ⟨rfl, same⟩ | ⟨-, nothing⟩
    · have lastLine : last = ("Run with: k6 run " ++ scriptName).toList := by
        rw [opening]
        exact List.append_cancel_right (List.cons.inj same).1
      rw [lastLine, String.ofList_toList]
      simp [shown, ← String.append_assoc]
    · cases nothing
  · intro entries nonempty hinted
    have lines := goesOn (overrides entries).toList (isOneLine_overrides hinted)
    have characters : ("Run with: k6 run " ++ scriptName ++ " " ++ overrides entries).toList =
        ("Run with: k6 run " ++ scriptName).toList ++ ' ' :: (overrides entries).toList := by simp
    have lastLine : "// " ++ String.ofList (last ++ ' ' :: (overrides entries).toList) =
        "// " ++ String.ofList last ++ " " ++ overrides entries := by
      apply String.toList_inj.mp
      simp
    rw [← characters] at lines
    rw [stmtText_comment lines, lastLine, trimEnd_overrides nonempty]
    simp only [shown, String.append_assoc]

theorem words_overrides_iff {entries : List Variable} (bare : ∀ entry ∈ entries, IsBare entry.key) :
    words (overrides entries) = some (settings entries) ↔ ∀ entry ∈ entries, ¬ Expands entry.value := by
  have expands (value : String) : value.toList.any startsExpansion = true ↔ Expands value := List.any_eq_true
  have read := wordsFrom_overrides bare []
  rw [words, State.start, read]
  by_cases expanding : (entries.any fun entry => entry.value.toList.any startsExpansion) = true
  · rw [if_pos expanding, Option.map_none]
    obtain ⟨entry, member, found⟩ := List.any_eq_true.mp expanding
    refine iff_of_false nofun fun inert => inert entry member ((expands entry.value).mp found)
  · rw [if_neg expanding]
    refine iff_of_true (by simp) fun entry member found => expanding ?_
    exact List.any_eq_true.mpr ⟨entry, member, (expands entry.value).mpr found⟩

/-- A shell reads the hint behind the name of the script as one setting for each variable, with its value
character for character, exactly if nothing in the values starts an expansion. -/
theorem runHint_passes_values (scriptName : String) :
    ∃ front, (IsOneLine scriptName → front = "// Run with: k6 run " ++ scriptName ++ " ") ∧
      ∀ job : Job, job.scriptName = scriptName → job.profileVariables ≠ [] →
        (∀ entry ∈ job.profileVariables, IsHinted entry) →
        ∃ text hint, job.environment[1]? = some (.comment text) ∧
          stmtText standardUnit 0 (.comment text) = front ++ hint ∧
          (words hint = some (settings job.profileVariables) ↔
            ∀ entry ∈ job.profileVariables, ¬ Expands entry.value) := by
  obtain ⟨front, whole, shown⟩ := exists_hintFront scriptName
  refine ⟨front, whole, fun job same declares hinted => ?_⟩
  subst same
  refine ⟨_, overrides job.profileVariables, ?_, shown job.profileVariables declares hinted, ?_⟩
  · have declared : ¬ job.profileVariables.isEmpty = true := by simpa using declares
    rw [environment, if_neg declared]
    rfl
  · exact words_overrides_iff fun entry member => (hinted entry member).bare

def quotingJob : Job where
  plan := { profiles := [("dev", [⟨"SHARE", "C:\\tmp \"x\" 'y' #z;"⟩, ⟨"TOKEN", ""⟩])] }
  generatedAt := .ofEpoch 0
  scriptName := "load.js"

theorem runHint_passes_values_quoting :
    quotingJob.profileVariables ≠ [] ∧ (∀ entry ∈ quotingJob.profileVariables, IsHinted entry) ∧
      ∃ text hint, quotingJob.environment[1]? = some (.comment text) ∧
        stmtText standardUnit 0 (.comment text) = "// Run with: k6 run load.js " ++ hint ∧
        words hint = some ["-e", "SHARE=C:\\tmp \"x\" 'y' #z;", "-e", "TOKEN="] := by
  have declares : quotingJob.profileVariables ≠ [] := by decide
  have hinted : ∀ entry ∈ quotingJob.profileVariables, IsHinted entry := by
    intro entry member
    have fits : ∀ entry ∈ quotingJob.profileVariables,
        IsBare entry.key ∧ IsOneLine entry.key ∧ IsOneLine entry.value := by decide
    obtain ⟨bare, key, value⟩ := fits entry member
    exact ⟨bare, key, value⟩
  obtain ⟨front, whole, passes⟩ := runHint_passes_values "load.js"
  obtain ⟨text, hint, isComment, shown, reads⟩ := passes quotingJob rfl declares hinted
  rw [whole (by decide)] at shown
  exact ⟨declares, hinted, text, hint, isComment, shown, reads.mpr (by decide)⟩

def expandingJob : Job where
  plan := { profiles := [("dev", [⟨"A", "$HOME"⟩])] }
  generatedAt := .ofEpoch 0

/-- A dollar sign has its use between double quotes too, so that a shell puts another value there. -/
theorem runHint_expands_value :
    (∀ entry ∈ expandingJob.profileVariables, IsOneLine entry.value) ∧
      expandingJob.environment[1]? = some (.comment ("Run with: k6 run script.js " ++ "-e A=\"$HOME\"")) ∧
      words "-e A=\"$HOME\"" ≠ some (settings expandingJob.profileVariables) := by
  refine ⟨by decide, by rfl, by decide⟩

end Job

end LoadScript.Compile
