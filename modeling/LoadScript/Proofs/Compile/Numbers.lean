import LoadScript.Compile.Numbers
import LoadScript.Proofs.Compile.EntryPoints
import LoadScript.Proofs.Compile.Safety
import LoadScript.Proofs.Number.Range
import LoadScript.Proofs.Plan.Loaded
import LoadScript.Proofs.Script.Numerals

/-!
The numbers of a script are whole numbers and pauses, and they are written as code for numbers if they are
finite. The same holds of the bound on the rate of failed requests.
-/

namespace LoadScript.Compile

open Script

/-! The block of a request. -/

theorem headerCandidates_numbers (request : Request) :
    ∀ header ∈ headerCandidates request, header.2.numbers = [] := by
  have authorized : ∀ header ∈ authorization request, header.2.numbers = [] := by
    rw [authorization]
    split
    · split
      · simp
      · simp [resolve_numbers]
    · simp [Expr.numbers, partNumbers, exprNumbers, resolve_numbers]
    · simp
  have declared : ∀ header ∈ declaredHeaders request, header.2.numbers = [] := by
    intro header member
    obtain ⟨written, _, rfl⟩ := List.mem_map.mp member
    exact resolve_numbers _
  have content : ∀ header ∈ contentType request, header.2.numbers = [] := by
    rw [contentType]
    split <;> simp [Expr.numbers]
  simp only [headerCandidates, List.forall_mem_append]
  exact ⟨⟨authorized, declared⟩, content⟩

theorem requestHeaders_numbers (request : Request) : entryNumbers (requestHeaders request) = [] := by
  rw [List.eq_nil_iff_forall_not_mem]
  intro number member
  obtain ⟨header, isHeader, inside⟩ := mem_entryNumbers.mp member
  simp [headerCandidates_numbers request header (mergeHeaders_subset _ _ _ isHeader)] at inside

theorem callStmts_numbers (request : Request) (baseUrl : String) :
    bodyNumbers (callStmts request baseUrl) = [] := by
  have url : (requestUrl request.url baseUrl).numbers = [] := by
    rw [requestUrl]
    split <;> exact resolve_numbers _
  simp only [callStmts]
  split
  · simp [bodyNumbers, Expr.numbers, exprNumbers, url, resolveTemplate_numbers]
  · simp [bodyNumbers, Expr.numbers, exprNumbers, url]

theorem extractionStmts_numbers (extraction : Extraction) :
    bodyNumbers (extractionStmts extraction) = [] := by
  have value : (extractedValue extraction.path).numbers = [] := by
    rw [extractedValue]
    split <;> rfl
  rw [extractionStmts]
  split
  · simp [bodyNumbers, Stmt.numbers, Expr.numbers, exprNumbers, value]
  · rfl

theorem checkStmts_numbers (checks : List Check) : bodyNumbers (checkStmts checks) = [] := by
  have conditions (checks : List Check) :
      entryNumbers (checks.map fun check => (check.name, Expr.arrow ["r"] (.raw check.condition))) = [] := by
    induction checks with
    | nil => rfl
    | cons check rest ih => simpa [entryNumbers, Expr.numbers] using ih
  rw [checkStmts]
  split
  · rfl
  · simp [bodyNumbers, Stmt.numbers, Expr.numbers, exprNumbers, conditions]

/-! Options. -/

theorem stageOption_numbers (stage : Stage) :
    ∀ number ∈ (stageOption stage).numbers, ∃ value, number = .whole value := by
  simp [stageOption, Expr.numbers, entryNumbers]

theorem scenarioOption_numbers (scenario : Scenario) :
    ∀ number ∈ (scenarioOption scenario).numbers, ∃ value, number = .whole value := by
  cases extent : iterations? scenario <;> simp [scenarioOption, extent, Expr.numbers, entryNumbers]

theorem shapeOptions_numbers (shape : LoadShape) :
    ∀ number ∈ entryNumbers shape.options, ∃ value, number = .whole value := by
  cases shape with
  | constant users duration => simp [LoadShape.options, entryNumbers, Expr.numbers]
  | staged stages =>
      intro number member
      simp only [LoadShape.options, entryNumbers, Expr.numbers, List.append_nil] at member
      obtain ⟨item, isItem, inside⟩ := mem_exprNumbers.mp member
      obtain ⟨stage, _, rfl⟩ := List.mem_map.mp isItem
      exact stageOption_numbers stage number inside
  | scheduled scenarios =>
      intro number member
      simp only [LoadShape.options, entryNumbers, Expr.numbers, List.append_nil] at member
      obtain ⟨entry, isEntry, inside⟩ := mem_entryNumbers.mp member
      obtain ⟨scenario, _, rfl⟩ := List.mem_map.mp isEntry
      exact scenarioOption_numbers scenario number inside

namespace Job

def IsShown (job : Job) (number : Number) : Prop :=
  (∃ value, number = .whole value) ∨ ∃ pause, job.plan.Pauses pause ∧ number = .real pause

theorem blockBody_numbers (job : Job) {request : Request} (listed : request ∈ job.plan.requests) :
    ∀ number ∈ bodyNumbers (job.blockBody request), job.IsShown number := by
  have pauses : ∀ number ∈ bodyNumbers (pauseStmts job.plan.thinkTime request), job.IsShown number := by
    rw [pauseStmts]
    split
    · next shown =>
        simp only [Bool.and_eq_true, decide_eq_true_eq] at shown
        intro number member
        have same : number = .real request.thinkTime := by
          simpa [bodyNumbers, Stmt.numbers, Expr.numbers, exprNumbers] using member
        exact .inr ⟨_, .request listed shown.1 shown.2, same⟩
    · simp [bodyNumbers]
  simpa [blockBody, requestBody, bodyNumbers_append, bodyNumbers, Stmt.numbers,
    Expr.numbers, entryNumbers, requestHeaders_numbers, callStmts_numbers, extractionStmts_numbers,
    checkStmts_numbers] using pauses

theorem blocks_numbers (job : Job) {requests : List Request} (listed : requests ⊆ job.plan.requests) :
    ∀ number ∈ bodyNumbers (job.blocks requests).value, job.IsShown number := by
  intro number member
  obtain ⟨stmt, isStmt, inside⟩ := mem_bodyNumbers.mp member
  simp only [blocks_value, List.mem_flatMap, List.mem_cons, List.not_mem_nil, or_false] at isStmt
  obtain ⟨request, isRequest, rfl | rfl⟩ := isStmt
  · exact blockBody_numbers job (listed isRequest) number inside
  · cases inside

/-! The default function. -/

theorem casesFrom_numbers (job : Job) {requests : List Request} : ∀ index,
    requests ⊆ job.plan.requests →
    ∀ number ∈ caseNumbers (job.casesFrom index requests).value, job.IsShown number := by
  induction requests with
  | nil => intro index _ number member; cases member
  | cons request rest ih =>
      intro index listed
      have first := blockBody_numbers job (listed List.mem_cons_self)
      have others := ih (index + 1) fun other member => listed (List.mem_cons_of_mem _ member)
      simp only [casesFrom, Logged.value_bind, Logged.value_pure, caseNumbers, bodyNumbers, block_value,
        Stmt.numbers, Expr.numbers, List.append_nil, List.forall_mem_append, List.forall_mem_singleton]
      exact ⟨⟨.inl ⟨index, rfl⟩, first⟩, others⟩

theorem entryBody_numbers (job : Job) :
    ∀ number ∈ bodyNumbers job.entryBody.value, job.IsShown number := by
  simp only [entryBody]
  split
  · intro number member
    cases member
  · split
    · intro number member
      obtain ⟨stmt, isStmt, inside⟩ := mem_bodyNumbers.mp member
      rcases List.mem_cons.mp isStmt with rfl | call
      · cases inside
      · obtain ⟨index, _, rfl⟩ := List.mem_map.mp call
        cases inside
    · simpa [bodyNumbers, Stmt.numbers, Expr.numbers]
        using casesFrom_numbers job 0 (List.Subset.refl _)
    · exact blocks_numbers job (List.Subset.refl _)

theorem pause_numbers (job : Job) (single : job.plan.usesScenarios = false) :
    ∀ number ∈ bodyNumbers job.pause, job.IsShown number := by
  simp only [pause]
  split
  · next mode =>
      simp only [bodyNumbers, Stmt.numbers, Expr.numbers, exprNumbers, List.append_nil,
        List.forall_mem_singleton]
      exact .inr ⟨_, .fixed single mode, rfl⟩
  · next mode =>
      simp only [bodyNumbers, Stmt.numbers, Expr.numbers, exprNumbers, List.append_nil,
        List.nil_append, List.forall_mem_append, List.forall_mem_singleton]
      exact ⟨.inr ⟨_, .least single mode, rfl⟩, .inr ⟨_, .spread single mode, rfl⟩⟩
  · intro number member
    cases member

theorem withPause_numbers {allowed : Number → Prop} {pause body : List Stmt}
    (pauseAllowed : ∀ number ∈ bodyNumbers pause, allowed number)
    (bodyAllowed : ∀ number ∈ bodyNumbers body, allowed number) :
    ∀ number ∈ bodyNumbers (withPause pause body), allowed number := by
  rw [withPause]
  split
  · exact bodyAllowed
  · split
    · rw [bodyNumbers_append, List.forall_mem_append]
      exact ⟨bodyAllowed, pauseAllowed⟩
    · rw [bodyNumbers_append, List.forall_mem_append]
      exact ⟨bodyAllowed, pauseAllowed⟩

/-! The sections of a script. -/

theorem functions_numbers (job : Job) :
    ∀ number ∈ bodyNumbers job.functions.value, job.IsShown number := by
  intro number member
  obtain ⟨stmt, isStmt, inside⟩ := mem_bodyNumbers.mp member
  rw [functions_value] at isStmt
  split at isStmt
  · simp only [scenarioFunctions_value, List.mem_flatMap, List.mem_cons, List.not_mem_nil,
      or_false] at isStmt
    obtain ⟨scenario, _, rfl | rfl⟩ := isStmt
    · exact blocks_numbers job (selectedRequests_subset job scenario) number inside
    · cases inside
  · next single =>
      rcases List.mem_append.mp isStmt with helper | entry
      · split at helper
        · simp only [parallelHelpers, helpersFrom_value, List.mem_flatMap, List.mem_cons,
            List.not_mem_nil, or_false] at helper
          obtain ⟨⟨request, position⟩, place, rfl | rfl⟩ := helper
          · have listed : request ∈ job.plan.requests :=
              (List.mem_zipIdx place).2.2 ▸ List.getElem_mem _
            exact blocks_numbers job (List.cons_subset.mpr ⟨listed, List.nil_subset _⟩) number inside
          · cases inside
        · cases helper
      · simp only [defaultFunction_value, List.mem_singleton] at entry
        subst entry
        exact withPause_numbers (pause_numbers job (by simpa using single)) (entryBody_numbers job)
          number inside

theorem optionsSection_numbers (job : Job) :
    ∀ number ∈ bodyNumbers job.optionsSection.value, job.IsShown number := by
  have thresholds : entryNumbers (thresholdOptions job.plan.thresholds) = [] := by
    rw [thresholdOptions]
    split <;> rfl
  have section_eq : bodyNumbers job.optionsSection.value =
      entryNumbers (loadShape job.plan).value.options := by
    rw [optionsSection_value, options_value]
    simp [bodyNumbers, Stmt.numbers, Expr.numbers, entryNumbers_append, thresholds]
  rw [section_eq]
  intro number member
  exact .inl (shapeOptions_numbers _ number member)

theorem program_numbers (job : Job) :
    ∀ number ∈ bodyNumbers job.program.value, job.IsShown number := by
  have header : bodyNumbers job.header.value = [] := by
    rw [header]
    split <;> rfl
  have imports : bodyNumbers job.imports = [] := by
    rw [imports]
    split <;> rfl
  have environment : bodyNumbers job.environment = [] := by
    have constants (entries : List Variable) : bodyNumbers (entries.map variableStmt) = [] := by
      induction entries with
      | nil => rfl
      | cons entry rest ih =>
          simpa [bodyNumbers, variableStmt, Stmt.numbers, Expr.numbers] using ih
    rw [environment]
    split
    · rfl
    · simp [bodyNumbers_append, bodyNumbers, Stmt.numbers, constants]
  have baseUrl : bodyNumbers job.baseUrl.value = [] := by
    simp only [baseUrl]
    repeat' split
    · rfl
    · rfl
    · simp [bodyNumbers, Stmt.numbers, resolve_numbers]
  have store : bodyNumbers job.chainingStore = [] := by
    rw [chainingStore]
    split <;> rfl
  simp only [program_value, bodyNumbers_append, header, imports, environment, baseUrl, store,
    List.nil_append, List.forall_mem_append]
  exact ⟨optionsSection_numbers job, functions_numbers job⟩

/-! The rate of failed requests. -/

theorem isNumberCode_rateText_iff {percent : Double} (canonical : percent.IsCanonical) :
    IsNumberCode (rateText percent).toList ↔ percent.finite?.isSome = true := by
  cases canonical with
  | notANumber => exact isNumberCode_text_iff .notANumber
  | @infinity negative => exact isNumberCode_text_iff (.infinity negative)
  | @finite negative mantissa exponent normal =>
      obtain ⟨quotient, power, divided, quotientNormal⟩ :=
        Double.divideBy_finite negative normal (show 2 ≤ 100 by decide)
      refine iff_of_true ?_ rfl
      simp only [rateText, divided]
      split
      · next whole _ => exact isNumberCode_toString whole
      · next broken =>
          obtain ⟨rounded, place, roundedEq⟩ := Double.roundTo_finite negative 10 quotientNormal
            (Double.exponent_lt_of_whole?_eq_none broken)
          rw [roundedEq]
          exact isNumberCode_finiteText negative rounded place

theorem members_thresholds {plan : Plan} (enabled : plan.thresholds.enabled = true) :
    ∃ bounds, (Compile.options plan).value.members "thresholds" = [bounds] ∧
      bounds.members "http_req_failed" =
        [.array [.string ("rate<" ++ rateText plan.thresholds.errorRate)] true] := by
  have shape : (loadShape plan).value.options.filter (fun entry => entry.1 = "thresholds") = [] := by
    cases (loadShape plan).value <;> simp [LoadShape.options]
  rw [options_value, Expr.members, List.filter_append, shape, List.nil_append, thresholdOptions,
    if_pos enabled]
  exact ⟨_, rfl, rfl⟩

/-- The numbers of a script are whole numbers and pauses. Each is written as code for a number exactly if it
is finite, and so is the bound on the rate of failed requests. Every number that is read has its one form. -/
theorem numbers_written (job : Job) (canonical : job.plan.thresholds.errorRate.IsCanonical) :
    (∀ number ∈ bodyNumbers job.program.value,
      ((∃ value, number = .whole value) ∨ ∃ pause, job.plan.Pauses pause ∧ number = .real pause) ∧
      ∀ unit level, IsNumberCode (exprText unit level (.number number)).toList ↔
        number.isFinite = true) ∧
    (job.plan.thresholds.enabled = true →
      ∃ options bounds bound, exportedValues "options" job.program.value = [options] ∧
        options.members "thresholds" = [bounds] ∧
        bounds.members "http_req_failed" = [.array [.string ("rate<" ++ bound)] true] ∧
        (IsNumberCode bound.toList ↔ job.plan.thresholds.errorRate.finite?.isSome = true)) := by
  constructor
  · intro number member
    refine ⟨program_numbers job number member, fun unit level => ?_⟩
    rw [exprText]
    exact isNumberCode_numberText_iff number
  · intro enabled
    obtain ⟨bounds, thresholds, failures⟩ := members_thresholds enabled
    exact ⟨_, bounds, _, exportedValues_program job, thresholds, failures,
      isNumberCode_rateText_iff canonical⟩

def pausing (fixed : Double) : Job :=
  { plan := { thinkTime := { fixed } }, generatedAt := .ofEpoch 0 }

def pausingDocument (fixed : Double) : Json :=
  .object [("thinkTime", .object [("fixed", .real fixed)])]

theorem pause_mem_pausing (fixed : Double) :
    Document.readPlan (pausingDocument fixed) = .ok (pausing fixed).plan ∧
      .real fixed ∈ bodyNumbers (pausing fixed).program.value := by
  refine ⟨rfl, ?_⟩
  rw [program_value, functions_value]
  simp [pausing, bodyNumbers_append, bodyNumbers, Plan.usesScenarios, Stmt.numbers, withPause, pause,
    entryBody, Stmt.isBlank, Expr.numbers, exprNumbers]

theorem numbers_written_half :
    let half : Double := .finite false (2 ^ 52) 1021
    (pausing half).plan.thresholds.errorRate.IsCanonical ∧
      .real half ∈ bodyNumbers (pausing half).program.value ∧
      IsNumberCode (exprText standardUnit 1 (.number (.real half))).toList ∧
      numberText (.real half) = "0.5" ∧ rateText (pausing half).plan.thresholds.errorRate = "0.01" := by
  intro half
  have canonical : (pausing half).plan.thresholds.errorRate.IsCanonical :=
    Plan.default_isLoaded.thresholds.errorRate
  have shown := (pause_mem_pausing half).2
  refine ⟨canonical, shown, ?_, by decide +kernel, by decide +kernel⟩
  exact (((numbers_written (pausing half) canonical).1 _ shown).2 standardUnit 1).mpr rfl

/-- A pause without end is written as a name that is no code for a number. -/
theorem pause_written_inf :
    let job := pausing (.infinity false)
    Document.readPlan (pausingDocument (.infinity false)) = .ok job.plan ∧
      .real (.infinity false) ∈ bodyNumbers job.program.value ∧
      exprText standardUnit 1 (.number (.real (.infinity false))) = "inf" ∧
      ¬IsNumberCode "inf".toList := by
  intro job
  have written : exprText standardUnit 1 (.number (.real (.infinity false))) = "inf" := by
    rw [exprText]
    rfl
  have shown := pause_mem_pausing (.infinity false)
  refine ⟨shown.1, shown.2, written, fun isCode => ?_⟩
  exact absurd ((isNumberCode_text_iff (.infinity false)).mp isCode) (by decide)

end Job

end LoadScript.Compile
