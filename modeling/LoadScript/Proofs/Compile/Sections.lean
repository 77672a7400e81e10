import LoadScript.Compile.Assembly

/-!
What the sections of a script are made of, apart from the log records that are written on the way.
-/

namespace LoadScript.Compile

open Script

def requestHeaders (request : Request) : List (String × Expr) := (headers request).value

namespace Job

def blockBody (job : Job) (request : Request) : List Stmt :=
  requestBody request job.plan.baseUrl job.plan.thinkTime (requestHeaders request)

def selectedRequests (job : Job) (scenario : Scenario) : List Request :=
  (select scenario.selector job.plan.requests.length).value.filterMap fun index =>
    job.plan.requests[index]?

theorem selectedRequests_subset (job : Job) (scenario : Scenario) :
    job.selectedRequests scenario ⊆ job.plan.requests := by
  intro request selected
  obtain ⟨index, _, found⟩ := List.mem_filterMap.mp selected
  exact List.mem_of_getElem? found

@[simp] theorem block_value (job : Job) (request : Request) :
    (job.block request).value = .group request.name (job.blockBody request) := rfl

theorem blocks_value (job : Job) (requests : List Request) :
    (job.blocks requests).value =
      requests.flatMap fun request => [.group request.name (job.blockBody request), .blank] := by
  induction requests with
  | nil => rfl
  | cons request rest ih => simp [blocks, ih]

@[simp] theorem scenarioFunction_value (job : Job) (scenario : Scenario) :
    (job.scenarioFunction scenario).value =
      .function scenario.functionName true false
        (job.blocks (job.selectedRequests scenario)).value := rfl

@[simp] theorem scenarioFunctions_value (job : Job) :
    job.scenarioFunctions.value =
      job.plan.scenarios.flatMap fun scenario => [(job.scenarioFunction scenario).value, .blank] := by
  rw [scenarioFunctions]
  induction job.plan.scenarios with
  | nil => rfl
  | cons scenario rest ih => simp [functionsOf, ih]

theorem helpersFrom_value (job : Job) (requests : List Request) : ∀ index,
    (job.helpersFrom index requests).value =
      (requests.zipIdx index).flatMap fun (request, position) =>
        [.function (helperName position) false false (job.blocks [request]).value, .blank] := by
  induction requests with
  | nil => intro index; rfl
  | cons request rest ih => intro index; simp [helpersFrom, blocks_value, ih]

@[simp] theorem defaultFunction_value (job : Job) :
    job.defaultFunction.value =
      [.function "default" true true (withPause job.pause job.entryBody.value)] := rfl

@[simp] theorem optionsSection_value (job : Job) :
    job.optionsSection.value =
      [.declare true "const" "options" (Compile.options job.plan).value, .blank] := rfl

theorem functions_value (job : Job) :
    job.functions.value =
      if job.plan.usesScenarios then job.scenarioFunctions.value
      else (if job.plan.executionMode = .parallel then job.parallelHelpers.value else []) ++
        job.defaultFunction.value := by
  rw [functions]
  split
  · rfl
  · split <;> rfl

theorem program_value (job : Job) :
    job.program.value =
      job.header.value ++ job.imports ++ job.environment ++ job.baseUrl.value ++
        job.chainingStore ++ job.optionsSection.value ++ job.functions.value := by
  rw [program]
  split <;> rfl

end Job

end LoadScript.Compile
