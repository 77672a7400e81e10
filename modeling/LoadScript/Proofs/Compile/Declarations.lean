import LoadScript.Proofs.Compile.Sections
import LoadScript.Script.Names

/-!
The names that each section of a script declares.
-/

namespace LoadScript

def Plan.keepsValues (plan : Plan) : Bool :=
  plan.requests.any fun request => request.extraction.enabled

end LoadScript

namespace LoadScript.Compile

open Script

namespace Job

theorem declaredNames_header (job : Job) : declaredNames job.header.value = [] := by
  rw [header]
  split <;> rfl

theorem declaredNames_imports (job : Job) :
    declaredNames job.imports = ["http", "check", "group", "sleep"] ++
      if job.plan.requests.any usesBasicAuth then ["encoding"] else [] := by
  rw [imports]
  split <;> rfl

theorem declaredNames_environment (job : Job) :
    declaredNames job.environment = job.profileVariables.map Variable.key := by
  have constants (entries : List Variable) :
      declaredNames (entries.map variableStmt) = entries.map Variable.key := by
    induction entries with
    | nil => rfl
    | cons entry rest ih => simp [ih, variableStmt, Stmt.constant, Stmt.declaredNames]
  rw [environment]
  split
  · next empty => simp [List.isEmpty_iff.mp empty]
  · simp [constants, Stmt.declaredNames]

def declaresBaseUrl (job : Job) : Bool :=
  !(job.plan.baseUrl = "" || job.profileVariables.any fun entry => entry.key = baseUrlName) &&
    !(placeholders job.plan.baseUrl).contains baseUrlName

theorem declaredNames_baseUrl (job : Job) :
    declaredNames job.baseUrl.value = if job.declaresBaseUrl then [baseUrlName] else [] := by
  rw [baseUrl]
  split
  · next supplied =>
      have undeclared : job.declaresBaseUrl = false := by simp only [declaresBaseUrl, supplied]; rfl
      rw [undeclared]
      rfl
  · next needed =>
      simp only [Bool.not_eq_true] at needed
      split
      · next circular =>
          have undeclared : job.declaresBaseUrl = false := by
            rw [declaresBaseUrl, needed, circular]
            rfl
          rw [undeclared]
          rfl
      · next declarable =>
          simp only [Bool.not_eq_true] at declarable
          have declared : job.declaresBaseUrl = true := by
            rw [declaresBaseUrl, needed, declarable]
            rfl
          rw [declared]
          rfl

theorem declaredNames_chainingStore (job : Job) :
    declaredNames job.chainingStore = if job.plan.keepsValues then [chainStore] else [] := by
  rw [chainingStore, Plan.keepsValues]
  split <;> rfl

theorem declaredNames_optionsSection (job : Job) :
    declaredNames job.optionsSection.value = ["options"] := rfl

theorem declaredNames_scenarioFunctions (job : Job) :
    declaredNames job.scenarioFunctions.value =
      job.plan.scenarios.map Scenario.functionName := by
  rw [scenarioFunctions_value]
  induction job.plan.scenarios with
  | nil => rfl
  | cons scenario rest ih =>
      rw [List.flatMap_cons, declaredNames_append, ih]
      rfl

theorem declaredNames_parallelHelpers (job : Job) :
    declaredNames job.parallelHelpers.value =
      (List.range job.plan.requests.length).map helperName := by
  have helpers (requests : List Request) : ∀ index,
      declaredNames (job.helpersFrom index requests).value =
        (List.range' index requests.length).map helperName := by
    induction requests with
    | nil => intro index; rfl
    | cons request rest ih =>
        intro index
        simp [helpersFrom, ih, Stmt.declaredNames, List.range'_succ]
  rw [parallelHelpers, helpers, List.range_eq_range']

def functionNames (job : Job) : List String :=
  if job.plan.usesScenarios then job.plan.scenarios.map Scenario.functionName
  else if job.plan.executionMode = .parallel then
    (List.range job.plan.requests.length).map helperName
  else []

theorem declaredNames_functions (job : Job) :
    declaredNames job.functions.value = job.functionNames := by
  rw [functions_value, functionNames]
  split
  · exact declaredNames_scenarioFunctions job
  · rw [declaredNames_append, defaultFunction_value]
    split
    · rw [declaredNames_parallelHelpers]
      simp [Stmt.declaredNames]
    · simp [Stmt.declaredNames]

theorem declaredNames_program (job : Job) :
    declaredNames job.program.value =
      declaredNames job.imports ++ job.profileVariables.map Variable.key ++
        declaredNames job.baseUrl.value ++ declaredNames job.chainingStore ++ ["options"] ++
        job.functionNames := by
  simp only [program_value, declaredNames_append, declaredNames_header, List.nil_append,
    declaredNames_environment, declaredNames_optionsSection, declaredNames_functions]

end Job

end LoadScript.Compile
