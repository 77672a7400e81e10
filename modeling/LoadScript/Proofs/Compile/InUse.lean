import LoadScript.Compile.Assembly
import LoadScript.Plan.InUse

/-!
A script, with the records written on the way, comes from what of the plan is in use. Each part of the compiler
gives the same for a plan and for the plan without what is switched off.
-/

namespace LoadScript

@[simp] theorem Extraction.inUse_enabled (extraction : Extraction) :
    extraction.inUse.enabled = extraction.enabled := by
  rw [inUse]
  split
  · rfl
  · next disabled => exact (Bool.not_eq_true _ ▸ disabled).symm

@[simp] theorem Plan.inUse_profileVariables (profile : String) (plan : Plan) :
    (plan.inUse profile).profileVariables profile = plan.profileVariables profile := by
  rw [inUse, profileVariables, Entries.find?, List.lookup_cons_self]
  rfl

namespace Compile

/-! One request. -/

@[simp] theorem authorization_inUse (mode : PauseMode) (request : Request) :
    authorization (request.inUse mode) = authorization request := by
  rw [authorization, authorization, Request.inUse]
  cases request.authKind <;> cases request.credentials <;> rfl

@[simp] theorem headers_inUse (mode : PauseMode) (request : Request) :
    headers (request.inUse mode) = headers request := by
  rw [headers, headers, headerCandidates, headerCandidates, authorization_inUse]
  rfl

@[simp] theorem callStmts_inUse (mode : PauseMode) (request : Request) (baseUrl : String) :
    callStmts (request.inUse mode) baseUrl = callStmts request baseUrl := by
  have method : (request.inUse mode).method = request.method := rfl
  rw [callStmts, callStmts, method]
  split
  · next sends =>
      have body : (request.inUse mode).body = request.body := if_pos sends
      rw [body]
      rfl
  · rfl

@[simp] theorem extractionStmts_inUse (extraction : Extraction) :
    extractionStmts extraction.inUse = extractionStmts extraction := by
  rw [Extraction.inUse]
  split
  · rfl
  · next disabled => simp [extractionStmts, Extraction.isActive, disabled]

@[simp] theorem pauseStmts_inUse (thinkTime : ThinkTime) (request : Request) :
    pauseStmts thinkTime (request.inUse thinkTime.mode) = pauseStmts thinkTime request := by
  rw [pauseStmts, pauseStmts, Request.inUse]
  by_cases own : thinkTime.mode = .perRequest
  · simp only [own, ↓reduceIte]
  · simp only [own, ↓reduceIte]
    rfl

theorem requestBlock_inUse (request : Request) (baseUrl : String) (thinkTime : ThinkTime) :
    requestBlock (request.inUse thinkTime.mode) baseUrl thinkTime = requestBlock request baseUrl thinkTime := by
  have extraction : (request.inUse thinkTime.mode).extraction = request.extraction.inUse := rfl
  simp only [requestBlock, requestBody, headers_inUse, callStmts_inUse, extraction, extractionStmts_inUse,
    pauseStmts_inUse]
  rfl

@[simp] theorem usesBasicAuth_inUse (mode : PauseMode) (request : Request) :
    usesBasicAuth (request.inUse mode) = usesBasicAuth request := by
  rw [usesBasicAuth, usesBasicAuth, Request.inUse]
  cases request.authKind <;> rfl

/-! The options. -/

theorem loadShape_inUse (profile : String) (plan : Plan) :
    loadShape (plan.inUse profile) = loadShape plan := by
  have uses : (plan.inUse profile).usesScenarios = plan.usesScenarios := rfl
  have kind : (plan.inUse profile).loadKind = plan.loadKind := rfl
  rw [loadShape, loadShape, uses, kind]
  split
  · rfl
  · split
    · rfl
    · next staged =>
        have stages : (plan.inUse profile).stages = plan.stages := if_pos staged
        rw [stages]
        rfl
    all_goals rfl

theorem thresholdOptions_inUse (thresholds : Thresholds) :
    thresholdOptions thresholds.inUse = thresholdOptions thresholds := by
  rw [Thresholds.inUse]
  split
  · rfl
  · next disabled => simp [thresholdOptions, disabled]

theorem thresholdNumbers_inUse (thresholds : Thresholds) :
    thresholdNumbers thresholds.inUse = thresholdNumbers thresholds := by
  rw [Thresholds.inUse]
  split
  · rfl
  · next disabled => simp [thresholdNumbers, disabled]

theorem options_inUse (profile : String) (plan : Plan) :
    options (plan.inUse profile) = options plan := by
  have thresholds : (plan.inUse profile).thresholds = plan.thresholds.inUse := rfl
  rw [options, options, loadShape_inUse, thresholds, thresholdOptions_inUse]

theorem optionsAreWritable_inUse (profile : String) (plan : Plan) :
    optionsAreWritable (plan.inUse profile) = optionsAreWritable plan := by
  have thresholds : (plan.inUse profile).thresholds = plan.thresholds.inUse := rfl
  rw [optionsAreWritable, optionsAreWritable, loadShape_inUse, thresholds, thresholdNumbers_inUse]

/-! The sections. -/

namespace Job

def inUse (job : Job) : Job := { job with plan := job.plan.inUse job.profile }

theorem inUse_profileVariables (job : Job) : job.inUse.profileVariables = job.profileVariables :=
  job.plan.inUse_profileVariables job.profile

theorem inUse_requests (job : Job) :
    job.inUse.plan.requests = job.plan.requests.map (Request.inUse job.plan.thinkTime.mode) := rfl

@[simp] theorem inUse_block (job : Job) (request : Request) :
    job.inUse.block (request.inUse job.plan.thinkTime.mode) = job.block request :=
  requestBlock_inUse request _ _

@[simp] theorem inUse_blocks (job : Job) (requests : List Request) :
    job.inUse.blocks (requests.map (Request.inUse job.plan.thinkTime.mode)) = job.blocks requests := by
  induction requests with
  | nil => rfl
  | cons request rest ih => rw [List.map_cons, blocks, blocks, inUse_block, ih]

theorem inUse_scenarioFunction (job : Job) (scenario : Scenario) :
    job.inUse.scenarioFunction scenario = job.scenarioFunction scenario := by
  have selected (indices : List Nat) :
      (indices.filterMap fun index => job.inUse.plan.requests[index]?) =
        (indices.filterMap fun index => job.plan.requests[index]?).map
          (Request.inUse job.plan.thinkTime.mode) := by
    rw [List.map_filterMap]
    congr 1
    funext index
    exact List.getElem?_map
  have count : job.inUse.plan.requests.length = job.plan.requests.length := List.length_map _
  simp only [scenarioFunction, selected, inUse_blocks, count]

theorem inUse_functionsOf (job : Job) (scenarios : List Scenario) :
    job.inUse.functionsOf scenarios = job.functionsOf scenarios := by
  induction scenarios with
  | nil => rfl
  | cons scenario rest ih => rw [functionsOf, functionsOf, inUse_scenarioFunction, ih]

theorem inUse_helpersFrom (job : Job) (requests : List Request) (index : Nat) :
    job.inUse.helpersFrom index (requests.map (Request.inUse job.plan.thinkTime.mode)) =
      job.helpersFrom index requests := by
  induction requests generalizing index with
  | nil => rfl
  | cons request rest ih =>
      have one := inUse_blocks job [request]
      rw [List.map_cons, helpersFrom, helpersFrom, ih]
      rw [List.map_singleton] at one
      rw [one]

theorem inUse_casesFrom (job : Job) (requests : List Request) (index : Nat) :
    job.inUse.casesFrom index (requests.map (Request.inUse job.plan.thinkTime.mode)) =
      job.casesFrom index requests := by
  induction requests generalizing index with
  | nil => rfl
  | cons request rest ih => rw [List.map_cons, casesFrom, casesFrom, inUse_block, ih]

theorem inUse_entryBody (job : Job) : job.inUse.entryBody = job.entryBody := by
  rw [entryBody, entryBody, inUse_requests]
  simp only [List.isEmpty_map, List.length_map, inUse_casesFrom, inUse_blocks]
  rfl

theorem inUse_functions (job : Job) : job.inUse.functions = job.functions := by
  have helpers : job.inUse.parallelHelpers = job.parallelHelpers :=
    inUse_helpersFrom job job.plan.requests 0
  have scenarios : job.inUse.scenarioFunctions = job.scenarioFunctions :=
    inUse_functionsOf job job.plan.scenarios
  have entry : job.inUse.defaultFunction = job.defaultFunction := by
    rw [defaultFunction, defaultFunction, inUse_entryBody]
    rfl
  rw [functions, functions, helpers, scenarios, entry]
  rfl

theorem inUse_header (job : Job) : job.inUse.header = job.header := by
  rw [header, header, inUse_requests, List.isEmpty_map]
  rfl

theorem inUse_imports (job : Job) : job.inUse.imports = job.imports := by
  have basic : usesBasicAuth ∘ Request.inUse job.plan.thinkTime.mode = usesBasicAuth :=
    funext fun request => usesBasicAuth_inUse _ request
  rw [imports, imports, inUse_requests, List.any_map, basic]

theorem inUse_environment (job : Job) : job.inUse.environment = job.environment := by
  rw [environment, environment, inUse_profileVariables]
  rfl

theorem inUse_baseUrl (job : Job) : job.inUse.baseUrl = job.baseUrl := by
  rw [baseUrl, baseUrl, inUse_profileVariables]
  rfl

theorem inUse_chainingStore (job : Job) : job.inUse.chainingStore = job.chainingStore := by
  have kept : (fun request : Request => request.extraction.enabled) ∘
      Request.inUse job.plan.thinkTime.mode = fun request => request.extraction.enabled :=
    funext fun request => request.extraction.inUse_enabled
  rw [chainingStore, chainingStore, inUse_requests, List.any_map, kept]

theorem inUse_optionsSection (job : Job) : job.inUse.optionsSection = job.optionsSection := by
  have options : Compile.options job.inUse.plan = Compile.options job.plan := options_inUse _ _
  rw [optionsSection, optionsSection, options]

theorem inUse_program (job : Job) : job.inUse.program = job.program := by
  rw [program, program, inUse_header, inUse_imports, inUse_environment, inUse_baseUrl, inUse_chainingStore,
    inUse_optionsSection, inUse_functions]
  rfl

/-- A script, with the records written on the way, is that of the plan without what is switched off. -/
theorem inUse_script (job : Job) : job.inUse.script = job.script := by
  have text : job.inUse.text = job.text := by
    rw [Job.text, Job.text, inUse_program, inUse_requests, List.length_map]
    rfl
  have writable : optionsAreWritable job.inUse.plan = optionsAreWritable job.plan :=
    optionsAreWritable_inUse _ _
  rw [script, script, text, writable]

/-- Plans that differ only in what is switched off have the same script for a profile, and the same records are
written on the way. -/
theorem script_of_inUse_eq {first second : Plan} {profile : String}
    (same : first.inUse profile = second.inUse profile) (generatedAt : Moment) (scriptName : String) :
    (Job.mk first profile generatedAt scriptName).script =
      (Job.mk second profile generatedAt scriptName).script := by
  have jobs : (Job.mk first profile generatedAt scriptName).inUse =
      (Job.mk second profile generatedAt scriptName).inUse :=
    congrArg (Job.mk · profile generatedAt scriptName) same
  rw [← inUse_script, jobs, inUse_script]

def planKeeping (text : String) : Plan :=
  { stages := [⟨text, text.length⟩]
    profiles := [("dev", [⟨"HOST", "h"⟩]), ("prod", [⟨"HOST", text⟩])]
    requests := [{
      url := "/items"
      body := text
      thinkTime := .ofNat text.length
      bearerToken := text
      credentials := some ⟨text, text⟩
      extraction := ⟨false, text, text⟩
      form := some ⟨[⟨text, text, false⟩], false⟩ }]
    thresholds := { enabled := false, p95 := text.length } }

theorem script_of_planKeeping :
    planKeeping "secret" ≠ planKeeping "word" ∧
      (planKeeping "secret").inUse "dev" = (planKeeping "word").inUse "dev" ∧
      (Job.mk (planKeeping "secret") "dev" (.ofEpoch 0) "script.js").script =
        (Job.mk (planKeeping "word") "dev" (.ofEpoch 0) "script.js").script := by
  have same : (planKeeping "secret").inUse "dev" = (planKeeping "word").inUse "dev" := by
    simp [planKeeping, Plan.inUse, Request.inUse, Extraction.inUse, Thresholds.inUse, Method.hasBody,
      Plan.profileVariables, Entries.find?]
  refine ⟨?_, same, script_of_inUse_eq same (.ofEpoch 0) "script.js"⟩
  intro equal
  have stages := congrArg Plan.stages equal
  simp [planKeeping] at stages

end Job

end Compile

end LoadScript
