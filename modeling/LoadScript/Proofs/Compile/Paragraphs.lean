import LoadScript.Proofs.Compile.Functions
import LoadScript.Proofs.Compile.Totality

/-!
The sections of a script are rendered one by one. Blank statements at the end of a list of statements are not
printed, so that a section alone loses the blank line that stands behind it within the script.
-/

namespace LoadScript.Compile

open Script

/-! Texts without empty lines at their ends. -/

theorem StartsLine.append {first : String} (starts : StartsLine first) (second : String) :
    StartsLine (first ++ second) := by
  obtain ⟨character, rest, text, inLine⟩ := starts
  exact ⟨character, rest ++ second.toList, by rw [String.toList_append, text, List.cons_append], inLine⟩

theorem EndsLine.append {second : String} (ends : EndsLine second) (first : String) :
    EndsLine (first ++ second) := by
  obtain ⟨start, character, text, inLine⟩ := ends
  exact ⟨first.toList ++ start, character, by rw [String.toList_append, text, List.append_assoc], inLine⟩

theorem IsParagraph.paragraphs {texts : List String} (nonempty : texts ≠ [])
    (each : ∀ text ∈ texts, IsParagraph text) : IsParagraph (paragraphs texts) := by
  induction texts with
  | nil => contradiction
  | cons text rest ih =>
      cases rest with
      | nil =>
          rw [Compile.paragraphs, String.intercalate_singleton]
          exact each text List.mem_cons_self
      | cons next rest =>
          have later := ih (by simp) fun other member => each other (List.mem_cons_of_mem text member)
          rw [Compile.paragraphs, String.intercalate_cons_cons, String.append_assoc]
          exact ⟨(each text List.mem_cons_self).starts.append _, (later.ends.append "\n").append text⟩

/-! The first and the last line of a statement without indentation. -/

theorem margin : padding standardUnit 0 = "" := rfl

theorem startsLine_comment (text : String) :
    StartsLine (endedLines (stmtLines standardUnit 0 (.comment text))) := by
  obtain ⟨line, rest, lines⟩ : ∃ line rest, commentLines "" text =
      Text.trimEnd ("" ++ "// " ++ line) :: rest := by
    rw [commentLines]
    cases Text.lines text with
    | nil => exact ⟨"", [], rfl⟩
    | cons line rest => exact ⟨line, _, rfl⟩
  have kept : Text.dropEndWhile Text.isBlank ("" ++ "// " ++ line).toList =
      '/' :: Text.dropEndWhile Text.isBlank ('/' :: ' ' :: line.toList) := by
    rw [String.toList_append]
    exact Text.dropEndWhile_append_cons (by decide) [] _
  have start : StartsLine (Text.trimEnd ("" ++ "// " ++ line)) :=
    ⟨'/', _, by rw [Text.trimEnd, String.toList_ofList, kept], by decide⟩
  rw [stmtLines, margin, lines, endedLines_cons, String.append_assoc]
  exact start.append _

theorem startsLine_blockComment (lines : List String) (isDocumentation : Bool) :
    StartsLine (endedLines (stmtLines standardUnit 0 (.blockComment lines isDocumentation))) := by
  have opening : StartsLine (if isDocumentation then "/**" else "/*") := by
    cases isDocumentation
    · exact ⟨'/', ['*'], rfl, by decide⟩
    · exact ⟨'/', ['*', '*'], rfl, by decide⟩
  rw [stmtLines, margin, blockCommentLines, List.cons_append, endedLines_cons, String.empty_append,
    String.append_assoc]
  exact opening.append _

theorem endsLine_blockComment (lines : List String) (isDocumentation : Bool) :
    EndsLine (endedLines (stmtLines standardUnit 0 (.blockComment lines isDocumentation))) := by
  rw [stmtLines, margin, blockCommentLines, endedLines_append]
  exact EndsLine.append ⟨[' ', '*'], '/', rfl, by decide⟩ _

theorem startsLine_importFrom (source : String) (whole : Option String) (names : List String) :
    StartsLine (endedLines (stmtLines standardUnit 0 (.importFrom source whole names))) := by
  simp only [stmtLines, margin, importText, endedLines_cons, String.empty_append, String.append_assoc]
  exact StartsLine.append ⟨'i', "mport ".toList, rfl, by decide⟩ _

theorem endsLine_importFrom (source : String) (whole : Option String) (names : List String) :
    EndsLine (endedLines (stmtLines standardUnit 0 (.importFrom source whole names))) := by
  simp only [stmtLines, importText, endedLines_cons, endedLines_nil, String.append_empty,
    ← String.append_assoc]
  rw [String.append_assoc]
  exact EndsLine.append ⟨[], ';', rfl, by decide⟩ _

theorem startsLine_declare {exported : Bool} {keyword : String}
    (head : StartsLine (exportText exported ++ keyword)) (name : String) (value : Expr) :
    StartsLine (endedLines (stmtLines standardUnit 0 (.declare exported keyword name value))) := by
  rw [stmtLines, margin, endedLines_cons, String.empty_append]
  exact ((((((head.append " ").append name).append " = ").append _).append ";").append "\n").append _

theorem endsLine_declare (exported : Bool) (keyword name : String) (value : Expr) :
    EndsLine (endedLines (stmtLines standardUnit 0 (.declare exported keyword name value))) := by
  rw [stmtLines, endedLines_cons, endedLines_nil, String.append_empty, String.append_assoc]
  exact EndsLine.append ⟨[], ';', rfl, by decide⟩ _

theorem startsLine_constant (name : String) (value : Expr) :
    StartsLine (endedLines (stmtLines standardUnit 0 (.constant name value))) :=
  startsLine_declare ⟨'c', "onst".toList, rfl, by decide⟩ name value

theorem startsLine_function (name : String) (exported isDefault : Bool) (body : List Stmt) :
    StartsLine (endedLines (stmtLines standardUnit 0 (.function name exported isDefault body))) := by
  have plain : StartsLine (exportText exported ++ "function ") := by
    cases exported
    · exact ⟨'f', "unction ".toList, rfl, by decide⟩
    · exact ⟨'e', "xport function ".toList, rfl, by decide⟩
  have head : StartsLine (functionHead name exported isDefault) := by
    cases isDefault
    · exact ((plain.append name).append "() ").append openBrace
    · exact StartsLine.append ⟨'e', "xport default function() ".toList, rfl, by decide⟩ openBrace
  rw [stmtLines, margin, List.cons_append, endedLines_cons, String.empty_append, String.append_assoc]
  exact head.append _

theorem endsLine_function (name : String) (exported isDefault : Bool) (body : List Stmt) :
    EndsLine (endedLines (stmtLines standardUnit 0 (.function name exported isDefault body))) := by
  rw [stmtLines, endedLines_append]
  exact EndsLine.append ⟨[], '}', rfl, by decide⟩ _

/-! Sections. -/

structure IsSolid (body : List Stmt) : Prop where
  closed : IsClosed body
  isParagraph : IsParagraph (render standardUnit 0 body)

def IsSection (part : List Stmt) : Prop := ∃ body, IsSolid body ∧ part = body ++ [.blank]

theorem isSolid_of_ends (start : List Stmt) {first last : Stmt} {rest body : List Stmt}
    (begins : body = first :: rest) (stops : body = start ++ [last]) (solid : last.isBlank = false)
    (starts : StartsLine (endedLines (stmtLines standardUnit 0 first)))
    (ends : EndsLine (endedLines (stmtLines standardUnit 0 last))) : IsSolid body := by
  have closed : IsClosed body := ⟨start, last, stops, solid⟩
  have lines : render standardUnit 0 body = endedLines (body.flatMap (stmtLines standardUnit 0)) := by
    rw [render_eq, closed.bodyLines_eq]
  refine ⟨closed, ⟨?_, ?_⟩⟩
  · rw [lines, begins, List.flatMap_cons, endedLines_append]
    exact starts.append _
  · rw [lines, stops, List.flatMap_append, endedLines_append, List.flatMap_singleton]
    exact ends.append _

/-- Sections keep their texts when they are printed together, for each closes itself off. -/
theorem render_sections {parts : List (List Stmt)} {last : List Stmt} (closed : IsClosed last)
    (each : ∀ part ∈ parts, part = [] ∨ IsSection part) :
    render standardUnit 0 (parts.flatten ++ last) =
      paragraphs ((parts.filter fun part => !part.isEmpty).map (render standardUnit 0) ++
        [render standardUnit 0 last]) := by
  induction parts with
  | nil => simp [paragraphs]
  | cons part rest ih =>
      have others := ih fun other member => each other (List.mem_cons_of_mem part member)
      rcases each part List.mem_cons_self with rfl | ⟨body, bodySolid, rfl⟩
      · simpa using others
      · have restClosed : IsClosed (rest.flatten ++ last) := closed.append _
        have listed : ((body ++ [.blank]) :: rest).filter (fun part => !part.isEmpty) =
            (body ++ [.blank]) :: rest.filter fun part => !part.isEmpty :=
          List.filter_cons_of_pos (by simp)
        rw [List.flatten_cons, List.append_assoc, List.append_assoc, List.singleton_append,
          render_blank_between bodySolid.closed restClosed, others, listed, List.map_cons,
          render_concat_blank, List.cons_append, paragraphs, paragraphs,
          String.intercalate_cons_of_ne_nil (by simp)]

theorem isSection_functions {functions : List Function} (nonempty : functions ≠ []) :
    IsSection (functions.flatMap fun function => [function.stmt, .blank]) := by
  obtain ⟨start, last, rfl⟩ := (List.eq_nil_or_concat functions).resolve_left nonempty
  have split : ((start.concat last).flatMap fun function => [function.stmt, .blank]) =
      ((start.flatMap fun function => [function.stmt, .blank]) ++ [last.stmt]) ++ [.blank] := by simp
  have ends := endsLine_function last.name last.exported last.isDefault last.body
  refine ⟨_, ?_, split⟩
  cases start with
  | nil =>
      exact isSolid_of_ends [] rfl rfl rfl
        (startsLine_function last.name last.exported last.isDefault last.body) ends
  | cons first rest =>
      exact isSolid_of_ends _ rfl rfl rfl
        (startsLine_function first.name first.exported first.isDefault first.body) ends

namespace Job

theorem isSection_header (job : Job) : IsSection job.header.value := by
  rw [header]
  split
  · exact ⟨[_, .blank, _], isSolid_of_ends [_, .blank] rfl rfl rfl
      (startsLine_blockComment _ _) (endsLine_blockComment _ _), rfl⟩
  · exact ⟨[_], isSolid_of_ends [] rfl rfl rfl
      (startsLine_blockComment _ _) (endsLine_blockComment _ _), rfl⟩

theorem isSection_imports (job : Job) : IsSection job.imports := by
  rw [imports]
  split
  · exact ⟨[_, _, _], isSolid_of_ends [_, _] rfl rfl rfl
      (startsLine_importFrom _ _ _) (endsLine_importFrom _ _ _), rfl⟩
  · exact ⟨[_, _], isSolid_of_ends [_] rfl rfl rfl
      (startsLine_importFrom _ _ _) (endsLine_importFrom _ _ _), rfl⟩

theorem isSection_environment (job : Job) : job.environment = [] ∨ IsSection job.environment := by
  rw [environment]
  split
  · exact .inl rfl
  · next listed =>
      obtain ⟨start, last, entries⟩ := (List.eq_nil_or_concat job.profileVariables).resolve_left
        fun empty => listed (List.isEmpty_iff.mpr empty)
      have stops := endsLine_declare false "const" last.key
        (.binary "||" (.reference ("__ENV." ++ last.key)) (.string last.value))
      rw [entries, List.concat_eq_append, List.map_append, ← List.append_assoc]
      exact .inr ⟨_, isSolid_of_ends _ (List.cons_append ..) rfl rfl (startsLine_comment _) stops, rfl⟩

theorem isSection_baseUrl (job : Job) : job.baseUrl.value = [] ∨ IsSection job.baseUrl.value := by
  rw [baseUrl]
  split
  · exact .inl rfl
  · split
    · exact .inl rfl
    · exact .inr ⟨[_], isSolid_of_ends [] rfl rfl rfl
        (startsLine_constant _ _) (endsLine_declare _ _ _ _), rfl⟩

theorem isSection_chainingStore (job : Job) : job.chainingStore = [] ∨ IsSection job.chainingStore := by
  rw [chainingStore]
  split
  · exact .inr ⟨[_, _], isSolid_of_ends [_] rfl rfl rfl
      (startsLine_comment _) (endsLine_declare _ _ _ _), rfl⟩
  · exact .inl rfl

theorem isSection_optionsSection (job : Job) : IsSection job.optionsSection.value :=
  ⟨[_], isSolid_of_ends [] rfl rfl rfl
    (startsLine_declare ⟨'e', "xport const".toList, rfl, by decide⟩ _ _) (endsLine_declare _ _ _ _), rfl⟩

theorem isSection_scenarioFunctions {job : Job} (uses : job.plan.usesScenarios = true) :
    IsSection job.scenarioFunctions.value := by
  have scheduled : job.plan.scenarios ≠ [] := by
    intro empty
    simp [Plan.usesScenarios, empty] at uses
  rw [scenarioFunctions_spaced]
  exact isSection_functions fun empty => scheduled (List.map_eq_nil_iff.mp empty)

theorem isSection_parallelHelpers (job : Job) :
    job.parallelHelpers.value = [] ∨ IsSection job.parallelHelpers.value := by
  rw [parallelHelpers_spaced]
  by_cases empty : job.plan.requests.mapIdx job.helper = []
  · exact .inl (by rw [empty]; rfl)
  · exact .inr (isSection_functions empty)

theorem isSolid_defaultFunction (job : Job) : IsSolid job.defaultFunction.value :=
  isSolid_of_ends [] rfl rfl rfl (startsLine_function _ _ _ _) (endsLine_function _ _ _ _)

structure IsLastSection (body last : List Stmt) : Prop where
  solid : IsSolid body
  ended : last = body ∨ last = body ++ [.blank]

theorem IsLastSection.render {body last : List Stmt} (ends : IsLastSection body last) (start : List Stmt) :
    render standardUnit 0 (start ++ last) = render standardUnit 0 (start ++ body) := by
  rcases ends.ended with rfl | rfl
  · rfl
  · rw [← List.append_assoc, render_concat_blank]

theorem isSection_front (job : Job) :
    ∀ part ∈ [ job.header.value, job.imports, job.environment, job.baseUrl.value, job.chainingStore,
      job.optionsSection.value], part = [] ∨ IsSection part := by
  simp only [List.forall_mem_cons, List.not_mem_nil, false_imp_iff, implies_true, and_true]
  exact ⟨.inr job.isSection_header, .inr job.isSection_imports, job.isSection_environment,
    job.isSection_baseUrl, job.isSection_chainingStore, .inr job.isSection_optionsSection⟩

theorem exists_lastSection (job : Job) :
    ∃ parts last body, job.sections = parts ++ [last] ∧ job.program.value = parts.flatten ++ last ∧
      (∀ part ∈ parts, part = [] ∨ IsSection part) ∧ IsLastSection body last := by
  have front := job.isSection_front
  rw [sections, program_value, functions_value]
  split
  · next uses =>
      obtain ⟨body, solid, ended⟩ := isSection_scenarioFunctions uses
      exact ⟨_, _, body, rfl, by simp, front, solid, .inr ended⟩
  · split
    · refine ⟨_, _, _, (List.append_assoc ..).symm, by simp, ?_, job.isSolid_defaultFunction, .inl rfl⟩
      intro part member
      rcases List.mem_append.mp member with inFront | helpers
      · exact front part inFront
      · rw [List.mem_singleton] at helpers
        exact helpers ▸ job.isSection_parallelHelpers
    · exact ⟨_, _, _, by rw [List.nil_append], by simp, front, job.isSolid_defaultFunction, .inl rfl⟩

theorem render_program (job : Job) :
    Script.render standardUnit 0 job.program.value = paragraphs job.sectionTexts := by
  obtain ⟨parts, last, body, listed, whole, each, ends⟩ := job.exists_lastSection
  have nonempty : last ≠ [] := by
    obtain ⟨start, stmt, rfl, -⟩ := ends.solid.closed
    rcases ends.ended with rfl | rfl <;> simp
  have kept : [last].filter (fun part => !part.isEmpty) = [last] :=
    List.filter_cons_of_pos (by simpa using nonempty)
  have alone : Script.render standardUnit 0 last = Script.render standardUnit 0 body := ends.render []
  rw [whole, ends.render, render_sections ends.solid.closed each, sectionTexts, listed, List.filter_append,
    kept, List.map_append, List.map_singleton, alone]

theorem isParagraph_sectionTexts (job : Job) : ∀ text ∈ job.sectionTexts, IsParagraph text := by
  obtain ⟨parts, last, body, listed, -, each, ends⟩ := job.exists_lastSection
  intro text member
  obtain ⟨part, kept, rfl⟩ := List.mem_map.mp member
  obtain ⟨inside, nonempty⟩ := List.mem_filter.mp kept
  rw [listed, List.mem_append, List.mem_singleton] at inside
  rcases inside with front | rfl
  · rcases each part front with rfl | ⟨body, solid, rfl⟩
    · simp at nonempty
    · rw [render_concat_blank]
      exact solid.isParagraph
  · rw [show Script.render standardUnit 0 part = Script.render standardUnit 0 body from ends.render []]
    exact ends.solid.isParagraph

theorem sectionTexts_ne_nil (job : Job) : job.sectionTexts ≠ [] := by
  obtain ⟨body, -, header⟩ := job.isSection_header
  simp [sectionTexts, sections, header]

/-- A script is the texts of its sections, each rendered by itself, with exactly one empty line between two of
them and exactly one line end at its end. -/
theorem script_sections (job : Job) :
    job.script.value =
        (if optionsAreWritable job.plan then .ok (paragraphs job.sectionTexts) else .error .written) ∧
      (∀ text ∈ job.sectionTexts, IsParagraph text) ∧ IsParagraph (paragraphs job.sectionTexts) := by
  refine ⟨?_, job.isParagraph_sectionTexts, .paragraphs job.sectionTexts_ne_nil job.isParagraph_sectionTexts⟩
  rw [script_value, render_program]

end Job

end LoadScript.Compile
