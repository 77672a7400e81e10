import LoadScript.Proofs.Compile.Declarations

/-!
The store of values kept from responses: when a script declares it, and what comes before the
declaration.
-/

namespace LoadScript.Script

theorem bodyTargets_append (first second : List Stmt) :
    bodyTargets (first ++ second) = bodyTargets first ++ bodyTargets second := by
  induction first with
  | nil => rfl
  | cons stmt rest ih => simp [bodyTargets, ih]

theorem bodyTargets_eq_nil_iff {body : List Stmt} :
    bodyTargets body = [] ↔ ∀ stmt ∈ body, stmt.targets = [] := by
  induction body with
  | nil => simp [bodyTargets]
  | cons stmt rest ih => simp [bodyTargets, ih]

/-- A name that starts with another character than the store does not stand for anything in it. -/
theorem isWithin_chainStore_of_head {name : String} {first : Char} {rest : List Char}
    (characters : name.toList = first :: rest) (different : first ≠ 'e') :
    isWithin chainStore name = false := by
  have unequal : name ≠ chainStore := by
    intro same
    have store : chainStore.toList = 'e' :: "xtractedVars".toList := by decide
    rw [same, store] at characters
    exact different (List.cons.inj characters).1.symm
  have object : (chainStore ++ ".").toList = 'e' :: "xtractedVars.".toList := by decide
  simp [isWithin, unequal, Text.startsWith, characters, object, Text.dropStart?, Ne.symm different]

end LoadScript.Script

namespace LoadScript.Compile.Job

open Script

theorem blockBody_targets (job : Job) (request : Request)
    (disabled : request.extraction.enabled = false) : bodyTargets (job.blockBody request) = [] := by
  have calls : bodyTargets (callStmts request job.plan.baseUrl) = [] := by
    rw [callStmts]
    split <;> rfl
  have extractions : extractionStmts request.extraction = [] := by
    simp [extractionStmts, Extraction.isActive, disabled]
  have checks : bodyTargets (checkStmts request.checks) = [] := by
    rw [checkStmts]
    split <;> rfl
  have pauses : bodyTargets (pauseStmts job.plan.thinkTime request) = [] := by
    rw [pauseStmts]
    split <;> rfl
  simp [blockBody, requestBody, bodyTargets_append, calls, extractions, checks, pauses, bodyTargets,
    Stmt.targets, Stmt.constant]

theorem blocks_targets (job : Job) (requests : List Request)
    (disabled : ∀ request ∈ requests, request.extraction.enabled = false) :
    bodyTargets (job.blocks requests).value = [] := by
  rw [blocks_value]
  induction requests with
  | nil => rfl
  | cons request rest ih =>
      have first := blockBody_targets job request (disabled request (by simp))
      have others := ih fun other member => disabled other (by simp [member])
      simp [bodyTargets, Stmt.targets, first, others]

theorem entryBody_targets (job : Job)
    (disabled : ∀ request ∈ job.plan.requests, request.extraction.enabled = false) :
    bodyTargets job.entryBody.value = [] := by
  simp only [entryBody]
  split
  · rfl
  · split
    · have calls (indices : List Nat) : bodyTargets
          (indices.map fun index => .evaluate (.call (helperName index) [])) = [] := by
        induction indices with
        | nil => rfl
        | cons index rest ih => simp [bodyTargets, Stmt.targets, ih]
      simp [bodyTargets, Stmt.targets, calls]
    · have cases (requests : List Request)
          (disabled : ∀ request ∈ requests, request.extraction.enabled = false) : ∀ index,
          caseTargets (job.casesFrom index requests).value = [] := by
        induction requests with
        | nil => intro index; rfl
        | cons request rest ih =>
            intro index
            have first := blockBody_targets job request (disabled request (by simp))
            have others := ih (fun other member => disabled other (by simp [member])) (index + 1)
            simp [casesFrom, caseTargets, bodyTargets, Stmt.targets, first, others]
      simp [bodyTargets, Stmt.targets, Stmt.constant, cases _ disabled]
    · exact blocks_targets job _ disabled

theorem functions_targets (job : Job)
    (disabled : ∀ request ∈ job.plan.requests, request.extraction.enabled = false) :
    ∀ stmt ∈ job.functions.value, stmt.targets = [] := by
  intro stmt member
  rw [functions_value] at member
  split at member
  · simp only [scenarioFunctions_value, List.mem_flatMap, List.mem_cons, List.not_mem_nil,
      or_false] at member
    obtain ⟨scenario, _, rfl | rfl⟩ := member
    · exact blocks_targets job _ fun request selected =>
        disabled request (selectedRequests_subset job scenario selected)
    · rfl
  · rcases List.mem_append.mp member with member | member
    · split at member
      · simp only [parallelHelpers, helpersFrom_value, List.mem_flatMap, List.mem_cons,
          List.not_mem_nil, or_false] at member
        obtain ⟨⟨request, position⟩, place, rfl | rfl⟩ := member
        · have inside : request ∈ job.plan.requests := (List.mem_zipIdx place).2.2 ▸ List.getElem_mem _
          exact blocks_targets job [request] (by simpa using disabled request inside)
        · rfl
      · simp at member
    · simp only [defaultFunction_value, List.mem_singleton] at member
      subst stmt
      have pauses : bodyTargets job.pause = [] := by
        rw [pause]
        split <;> rfl
      have entry := entryBody_targets job disabled
      simp only [Stmt.targets, withPause]
      split
      · exact entry
      · split <;> simp [bodyTargets_append, bodyTargets, Stmt.targets, entry, pauses]

theorem program_targets (job : Job)
    (disabled : ∀ request ∈ job.plan.requests, request.extraction.enabled = false) :
    bodyTargets job.program.value = [] := by
  have headers : bodyTargets job.header.value = [] := by
    rw [header]
    split <;> rfl
  have imports : bodyTargets job.imports = [] := by
    rw [imports]
    split <;> rfl
  have environment : bodyTargets job.environment = [] := by
    rw [environment]
    split
    · rfl
    · have constants : bodyTargets (job.profileVariables.map variableStmt) = [] := by
        rw [bodyTargets_eq_nil_iff]
        intro stmt member
        obtain ⟨entry, _, rfl⟩ := List.mem_map.mp member
        rfl
      simp [bodyTargets_append, bodyTargets, Stmt.targets, constants]
  have baseUrl : bodyTargets job.baseUrl.value = [] := by
    rw [baseUrl]
    repeat' split
    all_goals rfl
  have store : bodyTargets job.chainingStore = [] := by
    rw [chainingStore]
    split <;> rfl
  have functions : bodyTargets job.functions.value = [] :=
    bodyTargets_eq_nil_iff.mpr (functions_targets job disabled)
  simp [program_value, bodyTargets_append, headers, imports, environment, baseUrl, store, functions,
    bodyTargets, Stmt.targets]

theorem keepsValues_of_assignsTo (job : Job) (object : String) {stmt : Stmt}
    (member : stmt ∈ job.program.value) (assigns : stmt.assignsTo object) :
    job.plan.keepsValues = true := by
  obtain ⟨name, target, _⟩ := assigns
  cases kept : job.plan.keepsValues with
  | true => rfl
  | false =>
      have disabled : ∀ request ∈ job.plan.requests, request.extraction.enabled = false := by
        simpa [Plan.keepsValues] using kept
      have untouched := bodyTargets_eq_nil_iff.mp (program_targets job disabled) stmt member
      simp [untouched] at target

theorem header_references (job : Job) : ∀ stmt ∈ job.header.value, stmt.references = [] := by
  rw [header]
  split <;> simp [Stmt.references]

theorem imports_references (job : Job) : ∀ stmt ∈ job.imports, stmt.references = [] := by
  rw [imports]
  split <;> simp [Stmt.references]

theorem environment_references (job : Job) :
    ∀ stmt ∈ job.environment, ∀ name ∈ stmt.references, ∃ key, name = "__ENV." ++ key := by
  intro stmt member name reference
  rw [environment] at member
  split at member
  · simp at member
  · simp only [List.mem_append, List.mem_cons, List.mem_map, List.not_mem_nil, or_false] at member
    rcases member with ((rfl | rfl | rfl) | ⟨entry, _, rfl⟩) | rfl
    · simp [Stmt.references] at reference
    · simp [Stmt.references] at reference
    · simp [Stmt.references] at reference
    · simp only [variableStmt, Stmt.constant, Stmt.references, Expr.references, List.append_nil,
        List.mem_singleton] at reference
      exact ⟨entry.key, reference⟩
    · simp [Stmt.references] at reference

theorem baseUrl_declares (job : Job) {stmt : Stmt} (member : stmt ∈ job.baseUrl.value) :
    stmt.references = [] ∨ stmt.declaredNames = [baseUrlName] := by
  rw [baseUrl] at member
  split at member
  · simp at member
  · split at member
    · simp at member
    · simp only [Logged.value_pure, List.mem_cons, List.not_mem_nil, or_false] at member
      rcases member with rfl | rfl
      · exact .inr rfl
      · exact .inl rfl

/-- Of the sections before the store only the constant of the base URL may need a value of it. -/
theorem mem_baseUrl_of_refersTo (job : Job) {stmt : Stmt}
    (member : stmt ∈ job.header.value ++ job.imports ++ job.environment ++ job.baseUrl.value)
    (refers : stmt.refersTo chainStore) :
    stmt ∈ job.baseUrl.value ∧ stmt.declaredNames = [baseUrlName] := by
  obtain ⟨name, reference, within⟩ := refers
  simp only [List.mem_append, or_assoc] at member
  rcases member with member | member | member | member
  · simp [header_references job stmt member] at reference
  · simp [imports_references job stmt member] at reference
  · obtain ⟨key, rfl⟩ := environment_references job stmt member name reference
    have characters : ("__ENV." ++ key).toList = '_' :: ("_ENV.".toList ++ key.toList) := by
      rw [String.toList_append]
      rfl
    rw [isWithin_chainStore_of_head characters (by decide)] at within
    contradiction
  · rcases baseUrl_declares job member with silent | declares
    · simp [silent] at reference
    · exact ⟨member, declares⟩

/-- The store's own declaration stands between what comes before it and the rest of the script. -/
theorem program_around_store (job : Job) (kept : job.plan.keepsValues = true) :
    ∃ rest, job.program.value =
      (job.header.value ++ job.imports ++ job.environment ++ job.baseUrl.value ++
        [.comment "Variables for request chaining"]) ++
      .declare false "let" chainStore (.raw (openBrace ++ closeBrace)) :: rest := by
  have store : job.chainingStore =
      [ .comment "Variables for request chaining",
        .declare false "let" chainStore (.raw (openBrace ++ closeBrace)), .blank] := by
    rw [chainingStore]
    exact if_pos kept
  refine ⟨.blank :: (job.optionsSection.value ++ job.functions.value), ?_⟩
  rw [program_value, store]
  simp only [List.append_assoc, List.cons_append, List.nil_append]

theorem helperName_ne_chainStore (index : Nat) : helperName index ≠ chainStore := by
  intro same
  have characters := congrArg String.toList same
  have store : chainStore.toList = 'e' :: "xtractedVars".toList := by decide
  have helper : "api".toList = 'a' :: "pi".toList := by decide
  simp [helperName, String.toList_append, store, helper] at characters

theorem count_functionNames (job : Job) :
    job.functionNames.count chainStore =
      if job.plan.usesScenarios then
        (job.plan.scenarios.map Scenario.functionName).count chainStore
      else 0 := by
  rw [functionNames]
  split
  · rfl
  · split
    · rw [List.count_eq_zero]
      intro member
      obtain ⟨index, _, same⟩ := List.mem_map.mp member
      exact helperName_ne_chainStore index same
    · rfl

theorem count_declaredNames (job : Job) :
    (declaredNames job.program.value).count chainStore =
      (if job.plan.keepsValues then 1 else 0) +
        (job.profileVariables.map Variable.key).count chainStore +
        (if job.plan.usesScenarios then
          (job.plan.scenarios.map Scenario.functionName).count chainStore
        else 0) := by
  have imports : (declaredNames job.imports).count chainStore = 0 := by
    rw [declaredNames_imports]
    split <;> decide
  have baseUrl : (declaredNames job.baseUrl.value).count chainStore = 0 := by
    rw [declaredNames_baseUrl]
    split <;> decide
  have store : (declaredNames job.chainingStore).count chainStore =
      if job.plan.keepsValues then 1 else 0 := by
    rw [declaredNames_chainingStore]
    split <;> decide
  have options : ["options"].count chainStore = 0 := by decide
  rw [declaredNames_program]
  simp only [List.count_append, imports, baseUrl, store, options, count_functionNames]
  omega

theorem mem_or_eq_or_mem_of_append {α : Type} {first second before after : List α}
    {middle value : α} (split : first ++ middle :: second = before ++ value :: after) :
    value ∈ first ∨ value = middle ∨ middle ∈ before := by
  rcases List.append_eq_append_iff.mp split with ⟨between, whole, rest⟩ | ⟨between, whole, rest⟩
  · cases between with
    | nil =>
        simp only [List.nil_append, List.cons.injEq] at rest
        exact .inr (.inl rest.1.symm)
    | cons next between =>
        simp only [List.cons_append, List.cons.injEq] at rest
        exact .inr (.inr (by simp [whole, rest.1]))
  · cases between with
    | nil =>
        simp only [List.nil_append, List.cons.injEq] at rest
        exact .inr (.inl rest.1)
    | cons next between =>
        simp only [List.cons_append, List.cons.injEq] at rest
        exact .inl (by simp [whole, rest.1])

/-- The store of values is declared for every script with a request that keeps some, once apart from
variables and functions of the same name, and then it comes before every statement that refers to it
other than the constant of the base URL. Without such a request nothing assigns to it. -/
theorem chainStore_declared_before_use (job : Job) :
    (declaredNames job.program.value).count chainStore =
      (if job.plan.keepsValues then 1 else 0) +
        (job.profileVariables.map Variable.key).count chainStore +
        (if job.plan.usesScenarios then
          (job.plan.scenarios.map Scenario.functionName).count chainStore
        else 0) ∧
    (∀ stmt ∈ job.program.value, stmt.assignsTo chainStore → job.plan.keepsValues = true) ∧
    (job.plan.keepsValues = true → ∀ before stmt after,
      job.program.value = before ++ stmt :: after → stmt.refersTo chainStore →
        (stmt ∈ job.baseUrl.value ∧ stmt.declaredNames = [baseUrlName]) ∨
          .declare false "let" chainStore (.raw (openBrace ++ closeBrace)) ∈ before) := by
  refine ⟨count_declaredNames job,
    fun stmt member assigns => keepsValues_of_assignsTo job chainStore member assigns, ?_⟩
  intro kept before stmt after whole refers
  obtain ⟨rest, around⟩ := program_around_store job kept
  rcases mem_or_eq_or_mem_of_append (around.symm.trans whole) with early | same | declared
  · rcases List.mem_append.mp early with early | remark
    · exact .inl (mem_baseUrl_of_refersTo job early refers)
    · obtain ⟨name, reference, _⟩ := refers
      rw [List.mem_singleton.mp remark] at reference
      simp [Stmt.references] at reference
  · obtain ⟨name, reference, _⟩ := refers
    rw [same] at reference
    simp [Stmt.references, Expr.references] at reference
  · exact .inr declared

/-- A request may refer to the store of a script that does not declare it, the constant of the base URL
may refer to it before its declaration, and a variable may have its name. -/
theorem chainStore_used_undeclared :
    let moment : Moment := ⟨2026, 1, 2, 3, 4, 5⟩
    let kept : Request := { extraction := { enabled := true, path := "$.id", savedAs := "id" } }
    let chained : Job :=
      { plan := { requests := [{ url := "/users/$\x7bid\x7d" }] }, generatedAt := moment }
    let early : Job :=
      { plan := { baseUrl := "https://$\x7bhost\x7d", requests := [kept] }, generatedAt := moment }
    let shadowed : Job :=
      { plan := { profiles := [("dev", [{ key := "extractedVars" }])], requests := [kept] }
        generatedAt := moment }
    ((∃ stmt ∈ chained.program.value, stmt.refersTo chainStore) ∧
      (declaredNames chained.program.value).count chainStore = 0) ∧
    ((∃ stmt ∈ early.program.value.take 6, stmt.refersTo chainStore) ∧
      (declaredNames (early.program.value.take 6)).count chainStore = 0) ∧
    ((∃ stmt ∈ shadowed.program.value, stmt.refersTo chainStore) ∧
      (declaredNames shadowed.program.value).count chainStore = 2) := by
  decide +kernel

end LoadScript.Compile.Job
