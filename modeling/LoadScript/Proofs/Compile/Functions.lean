import LoadScript.Compile.Dispatch
import LoadScript.Proofs.Compile.Sections
import LoadScript.Proofs.Script.Layout

/-!
The functions of a script. They stand behind all that is declared for them, with a blank line before each.
-/

namespace LoadScript.Compile

open Script

namespace Job

def scenarioEntry (job : Job) (scenario : Scenario) : Function :=
  ⟨scenario.functionName, true, false, (job.blocks (job.selectedRequests scenario)).value⟩

def helper (job : Job) (index : Nat) (request : Request) : Function :=
  ⟨helperName index, false, false, (job.blocks [request]).value⟩

def helpers (job : Job) : List Function :=
  if job.plan.executionMode = .parallel then job.plan.requests.mapIdx job.helper else []

def entry (job : Job) : Function := ⟨"default", true, true, withPause job.pause job.entryBody.value⟩

/-! What stands before the functions. -/

theorem program_eq (job : Job) : job.program.value = job.preamble ++ job.functions.value :=
  program_value job

def opening (job : Job) : List Stmt :=
  job.header.value ++ job.imports ++ job.environment ++ job.baseUrl.value ++ job.chainingStore

theorem opening_isInternal (job : Job) : job.opening.all Stmt.isInternal = true := by
  have header : job.header.value.all Stmt.isInternal = true := by
    rw [header]
    split <;> rfl
  have imports : job.imports.all Stmt.isInternal = true := by
    rw [imports]
    split <;> rfl
  have environment : job.environment.all Stmt.isInternal = true := by
    rw [environment]
    split
    · rfl
    · have constants : (job.profileVariables.map variableStmt).all Stmt.isInternal = true := by
        rw [List.all_map, List.all_eq_true]
        intro entry _
        rfl
      rw [List.all_append, List.all_append, constants]
      rfl
  have baseUrl : job.baseUrl.value.all Stmt.isInternal = true := by
    rw [baseUrl]
    repeat' split
    all_goals rfl
  have store : job.chainingStore.all Stmt.isInternal = true := by
    rw [chainingStore]
    split <;> rfl
  simp only [opening, List.all_append, header, imports, environment, baseUrl, store, Bool.and_self]

theorem preamble_eq (job : Job) :
    job.preamble =
      job.opening ++ [.declare true "const" "options" (Compile.options job.plan).value, .blank] := rfl

theorem declaredFunctions_preamble (job : Job) : declaredFunctions job.preamble = [] := by
  rw [preamble_eq, declaredFunctions_append, declaredFunctions_eq_nil (opening_isInternal job)]
  rfl

theorem exportedValues_preamble (job : Job) :
    exportedValues "options" job.preamble = [(Compile.options job.plan).value] := by
  rw [preamble_eq, exportedValues_append, exportedValues_eq_nil (opening_isInternal job)]
  rfl

/-! The functions themselves. -/

theorem scenarioFunctions_spaced (job : Job) :
    job.scenarioFunctions.value =
      (job.plan.scenarios.map job.scenarioEntry).flatMap fun function => [function.stmt, .blank] := by
  rw [scenarioFunctions_value, List.flatMap_map]
  rfl

theorem parallelHelpers_spaced (job : Job) :
    job.parallelHelpers.value =
      (job.plan.requests.mapIdx job.helper).flatMap fun function => [function.stmt, .blank] := by
  rw [parallelHelpers, helpersFrom_value, List.mapIdx_eq_zipIdx_map, List.flatMap_map]
  rfl

theorem functions_single {job : Job} (single : job.plan.usesScenarios = false) :
    job.functions.value =
      (job.helpers.flatMap fun function => [function.stmt, .blank]) ++ [job.entry.stmt] := by
  rw [functions_value, if_neg (by simp [single]), helpers]
  split
  · rw [parallelHelpers_spaced]
    rfl
  · rfl

/-- The functions of a script: one for each scenario, or helpers and the default function. -/
theorem declaredFunctions_program (job : Job) :
    declaredFunctions job.program.value =
      if job.plan.usesScenarios then job.plan.scenarios.map job.scenarioEntry
      else job.helpers ++ [job.entry] := by
  rw [program_eq, declaredFunctions_append, declaredFunctions_preamble, List.nil_append]
  split
  · next uses =>
      rw [functions_value, if_pos uses, scenarioFunctions_spaced, declaredFunctions_spaced]
  · next single =>
      rw [functions_single (by simpa using single), declaredFunctions_append, declaredFunctions_spaced]
      rfl

theorem exportedValues_program (job : Job) :
    exportedValues "options" job.program.value = [(Compile.options job.plan).value] := by
  have functions : exportedValues "options" job.functions.value = [] := by
    cases uses : job.plan.usesScenarios with
    | true =>
        rw [functions_value, if_pos uses, scenarioFunctions_spaced, exportedValues_functions]
    | false =>
        rw [functions_single uses, exportedValues_append, exportedValues_functions]
        rfl
  rw [program_eq, exportedValues_append, exportedValues_preamble, functions, List.append_nil]

/-! The text of a script. -/

theorem render_functions (job : Job) (start : List Function) (last : Function) :
    render standardUnit 0
        (job.preamble ++ ((start.flatMap fun function => [function.stmt, .blank]) ++ [last.stmt])) =
      paragraphs (render standardUnit 0 job.preamble :: (start ++ [last]).map Function.text) := by
  let sections := job.opening ++ [.declare true "const" "options" (Compile.options job.plan).value]
  have ended : job.preamble = sections ++ [.blank] := by simp [sections, preamble_eq]
  have sectionsClosed : IsClosed sections := (isClosed_singleton rfl).append _
  have functionsClosed : ∀ body ∈ (start ++ [last]).map fun function => [function.stmt], IsClosed body := by
    intro body member
    obtain ⟨function, _, rfl⟩ := List.mem_map.mp member
    exact isClosed_singleton rfl
  have spaced : (start.flatMap fun function => [function.stmt, .blank]) ++ [last.stmt] =
      [.blank].intercalate ((start ++ [last]).map fun function => [function.stmt]) := by
    have separated := spaced_append (start.map Function.stmt) [last.stmt]
    rw [List.flatMap_map, List.map_map] at separated
    rw [List.map_append]
    exact separated
  have texts : ((start ++ [last]).map fun function => [function.stmt]).map (render standardUnit 0) =
      (start ++ [last]).map Function.text := by
    rw [List.map_map]
    exact List.map_congr_left fun function _ => function.render_stmt
  rw [spaced, ended, List.append_assoc, List.singleton_append,
    render_blank_between sectionsClosed (.intercalate (by simp) functionsClosed),
    render_intercalate functionsClosed, texts, render_concat_blank, paragraphs,
    String.intercalate_cons_of_ne_nil (by simp)]

theorem text_eq_paragraphs (job : Job) :
    job.text.value =
      paragraphs (render standardUnit 0 job.preamble ::
        (declaredFunctions job.program.value).map Function.text) := by
  have rendered : job.text.value = render standardUnit 0 job.program.value := rfl
  rw [rendered, declaredFunctions_program]
  cases uses : job.plan.usesScenarios with
  | true =>
      have scheduled : job.plan.scenarios ≠ [] := by
        intro empty
        simp [Plan.usesScenarios, empty] at uses
      obtain ⟨start, last, entries⟩ : ∃ start last,
          job.plan.scenarios.map job.scenarioEntry = start ++ [last] := by
        rcases List.eq_nil_or_concat (job.plan.scenarios.map job.scenarioEntry) with empty | found
        · exact absurd (List.map_eq_nil_iff.mp empty) scheduled
        · obtain ⟨start, last, entries⟩ := found
          exact ⟨start, last, by simpa using entries⟩
      have ended : ((start ++ [last]).flatMap fun function => [function.stmt, .blank]) =
          ((start.flatMap fun function => [function.stmt, .blank]) ++ [last.stmt]) ++ [.blank] := by simp
      rw [program_eq, functions_value, if_pos uses, scenarioFunctions_spaced, entries, ended,
        ← List.append_assoc, render_concat_blank, render_functions]
      rfl
  | false =>
      rw [program_eq, functions_single uses, render_functions]
      rfl

end Job

end LoadScript.Compile
