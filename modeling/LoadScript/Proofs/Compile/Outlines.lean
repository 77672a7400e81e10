import LoadScript.Proofs.Compile.Safety
import LoadScript.Proofs.Script.Outlines

/-!
Scripts of plans that differ only in texts of literals and comments have the same tokens but for the text of
their literals.
-/

namespace LoadScript.Compile

open Script

/-! The block of a request. -/

def SameHeader (first second : String × Expr) : Prop :=
  first.1 = second.1 ∧ first.2.outline = second.2.outline

theorem sameHeader_entry {first second : String × Expr} (same : SameHeader first second) :
    SameEntry true first second := ⟨.inl rfl, same.2⟩

theorem authorization_same {first second : Request} (alike : first.AlikeInCode second) :
    List.Forall₂ SameHeader (authorization first) (authorization second) := by
  have credentials := alike.credentials
  rw [authorization, authorization, alike.authKind]
  generalize first.credentials = one at credentials ⊢
  generalize second.credentials = other at credentials ⊢
  cases second.authKind with
  | none | custom => exact .nil
  | bearer =>
      have bearer : SamePlaceholders ("Bearer " ++ first.bearerToken)
          ("Bearer " ++ second.bearerToken) := by
        rw [SamePlaceholders, placeholders_append (by decide), placeholders_append (by decide)]
        exact alike.bearerToken
      simp only [alike.hasBearerToken]
      split
      · exact .nil
      · exact .cons ⟨rfl, outline_resolve bearer⟩ .nil
  | basic =>
      cases credentials with
      | none => exact .nil
      | some same =>
          have encoded := outline_call "encoding.b64encode" (.cons (outline_resolve same) .nil)
          exact .cons ⟨rfl, outline_textBefore "Basic " encoded⟩ .nil

theorem declaredHeaders_same {first second : List Header}
    (alike : List.Forall₂ Header.AlikeInCode first second) :
    List.Forall₂ SameHeader
      ((first.filter fun header => header.key != "").map fun header => (header.key, resolve header.value))
      ((second.filter fun header => header.key != "").map fun header =>
        (header.key, resolve header.value)) := by
  induction alike with
  | nil => exact .nil
  | cons same _ ih =>
      simp only [List.filter_cons, same.key]
      split
      · exact .cons ⟨same.key, outline_resolve same.value⟩ ih
      · exact ih

theorem headerCandidates_same {first second : Request} (alike : first.AlikeInCode second) :
    List.Forall₂ SameHeader (headerCandidates first) (headerCandidates second) := by
  have contentTypes : List.Forall₂ SameHeader (contentType first) (contentType second) := by
    rw [contentType, contentType, alike.method]
    exact List.forall₂_same.mpr fun header _ => ⟨rfl, rfl⟩
  exact List.rel_append (List.rel_append (authorization_same alike) (declaredHeaders_same alike.headers))
    contentTypes

theorem mergeHeaders_same (firstName secondName : String) {first second : List (String × Expr)}
    (same : List.Forall₂ SameHeader first second) : ∀ seen,
    List.Forall₂ SameHeader (mergeHeaders firstName seen first).value
      (mergeHeaders secondName seen second).value := by
  induction same with
  | nil => intro seen; exact .nil
  | @cons one other firstRest secondRest header _ ih =>
      intro seen
      obtain ⟨firstKey, firstValue⟩ := one
      obtain ⟨secondKey, secondValue⟩ := other
      obtain ⟨keys, values⟩ := header
      have sameKey : firstKey = secondKey := keys
      subst sameKey
      rw [mergeHeaders, mergeHeaders]
      split
      · exact ih seen
      · exact .cons ⟨rfl, values⟩ (ih _)

theorem requestHeaders_same {first second : Request} (alike : first.AlikeInCode second) :
    List.Forall₂ SameHeader (requestHeaders first) (requestHeaders second) :=
  mergeHeaders_same first.name second.name (headerCandidates_same alike) []

theorem callStmts_same {first second : Request} (alike : first.AlikeInCode second) (baseUrl : String) :
    bodyOutline (callStmts first baseUrl) = bodyOutline (callStmts second baseUrl) := by
  have payload : (resolveTemplate first.body).outline = (resolveTemplate second.body).outline := by
    rw [outline_resolveTemplate, outline_resolveTemplate, alike.body]
  simp only [callStmts, alike.method, alike.url]
  split
  · simp only [bodyOutline_cons, bodyOutline_nil, Stmt.constant]
    rw [outline_declare false "const" "payload" payload]
  · rfl

theorem checkStmts_same {first second : List Check}
    (same : List.Forall₂ (fun one other => one.condition = other.condition) first second) :
    bodyOutline (checkStmts first) = bodyOutline (checkStmts second) := by
  have entries : List.Forall₂ (SameEntry true)
      (first.map fun check => (check.name, Expr.arrow ["r"] (.raw check.condition)))
      (second.map fun check => (check.name, Expr.arrow ["r"] (.raw check.condition))) := by
    rw [List.forall₂_map_left_iff, List.forall₂_map_right_iff]
    refine same.imp ?_
    intro one other conditions
    exact ⟨.inl rfl, by rw [conditions]⟩
  have arguments := outline_call "check"
    (.cons (rfl : (Expr.reference "res").outline = _) (.cons (outline_object true false entries) .nil))
  cases same with
  | nil => rfl
  | cons condition rest =>
      rw [checkStmts, checkStmts, List.isEmpty_cons, List.isEmpty_cons]
      simp only [Bool.false_eq_true, if_false, bodyOutline_cons, bodyOutline_nil]
      rw [outline_evaluate arguments]

theorem requestBody_same {first second : Request} (alike : first.AlikeInCode second)
    (baseUrl : String) (thinkTime : ThinkTime) :
    bodyOutline (requestBody first baseUrl thinkTime (requestHeaders first)) =
      bodyOutline (requestBody second baseUrl thinkTime (requestHeaders second)) := by
  have headers := outline_object true false ((requestHeaders_same alike).imp fun _ _ => sameHeader_entry)
  have parameters := outline_object false false (.cons (show SameEntry false
    ("headers", .object (requestHeaders first) true false)
    ("headers", .object (requestHeaders second) true false) from ⟨.inr rfl, headers⟩) .nil)
  have pauses : pauseStmts thinkTime first = pauseStmts thinkTime second := by
    rw [pauseStmts, pauseStmts, alike.thinkTime]
  simp only [requestBody, bodyOutline_append, bodyOutline_cons, Stmt.constant,
    callStmts_same alike, alike.extraction, checkStmts_same alike.checks, pauses]
  rw [outline_declare false "const" "params" parameters]

/-! The options. -/

inductive LoadShape.AlikeInCode : LoadShape → LoadShape → Prop where
  | constant (users : Int) (firstDuration secondDuration : String) :
      AlikeInCode (.constant users firstDuration) (.constant users secondDuration)
  | staged {first second : List Stage}
      (alike : List.Forall₂ (fun one other => one.target = other.target) first second) :
      AlikeInCode (.staged first) (.staged second)
  | scheduled {first second : List Scenario}
      (alike : List.Forall₂ Scenario.AlikeInCode first second) :
      AlikeInCode (.scheduled first) (.scheduled second)

theorem isEmpty_same {α β : Type} {relation : α → β → Prop} {first : List α} {second : List β}
    (alike : List.Forall₂ relation first second) : first.isEmpty = second.isEmpty := by
  cases alike <;> rfl

theorem usesScenarios_same {first second : Plan} (alike : first.AlikeInCode second) :
    first.usesScenarios = second.usesScenarios := by
  rw [Plan.usesScenarios, Plan.usesScenarios, alike.scenariosEnabled, alike.loadKind,
    isEmpty_same alike.scenarios]

theorem loadShape_alike {first second : Plan} (alike : first.AlikeInCode second) :
    (loadShape first).value.AlikeInCode (loadShape second).value := by
  have constant : (LoadShape.constant first.users first.duration).AlikeInCode
      (.constant second.users second.duration) := by
    rw [alike.users]
    exact .constant _ _ _
  simp only [loadShape, usesScenarios_same alike, alike.loadKind, isEmpty_same alike.stages]
  split
  · exact .scheduled alike.scenarios
  · split
    · exact constant
    · split
      · exact constant
      · exact .staged alike.stages
    · exact .staged (.cons alike.targetUsers (.cons alike.targetUsers .nil))
    · exact .staged (.cons alike.users (.cons rfl .nil))
    · rw [alike.users, alike.targetUsers]
      exact .staged (List.forall₂_same.mpr fun _ _ => rfl)
    · exact constant

theorem iterations_same {first second : Scenario} (alike : first.AlikeInCode second) :
    iterations? first = iterations? second := by
  rw [iterations?, iterations?, alike.executor, alike.users]

theorem numbers_same {first second : LoadShape} (alike : first.AlikeInCode second) :
    first.numbers = second.numbers := by
  cases alike with
  | constant => rfl
  | staged stages => exact map_eq_of_forall₂ stages
  | scheduled scenarios =>
      apply flatMap_eq_of_forall₂
      refine scenarios.imp ?_
      intro one other same
      rw [same.users, iterations_same same]

theorem optionsAreWritable_same {first second : Plan} (alike : first.AlikeInCode second) :
    optionsAreWritable first = optionsAreWritable second := by
  rw [optionsAreWritable, optionsAreWritable, numbers_same (loadShape_alike alike), alike.thresholds]

theorem sameEntry_rfl (key : String) {first second : Expr} (values : first.outline = second.outline) :
    SameEntry false (key, first) (key, second) := ⟨.inr rfl, values⟩

theorem scenarioOption_same {first second : Scenario} (alike : first.AlikeInCode second) :
    (scenarioOption first).outline = (scenarioOption second).outline := by
  have users := sameEntry_rfl "vus"
    (congrArg (fun users => (Expr.number (.whole users)).outline) alike.users)
  have extended {extent other : String × Expr} (extents : SameEntry false extent other) :
      (Expr.object [
        ("executor", .string first.executor.name), ("startTime", .string first.startTime),
        ("vus", .number (.whole first.users)), extent,
        ("exec", .string first.functionName)] false false).outline =
      (Expr.object [
        ("executor", .string second.executor.name), ("startTime", .string second.startTime),
        ("vus", .number (.whole second.users)), other,
        ("exec", .string second.functionName)] false false).outline :=
    outline_object false false (.cons (sameEntry_rfl "executor" (outline_string _ _))
      (.cons (sameEntry_rfl "startTime" (outline_string _ _)) (.cons users (.cons extents
        (.cons (sameEntry_rfl "exec" (outline_string _ _)) .nil)))))
  simp only [scenarioOption, iterations_same alike]
  cases iterations? second with
  | none => exact extended (sameEntry_rfl "duration" (outline_string _ _))
  | some count => exact extended (sameEntry_rfl "iterations" rfl)

theorem stageOption_same {first second : Stage} (targets : first.target = second.target) :
    (stageOption first).outline = (stageOption second).outline := by
  have target := sameEntry_rfl "target"
    (congrArg (fun users => (Expr.number (.whole users)).outline) targets)
  exact outline_object false true
    (.cons (sameEntry_rfl "duration" (outline_string _ _)) (.cons target .nil))

theorem shapeOptions_same {first second : LoadShape} (alike : first.AlikeInCode second) :
    List.Forall₂ (SameEntry false) first.options second.options := by
  cases alike with
  | constant users firstDuration secondDuration =>
      exact .cons (sameEntry_rfl "vus" rfl) (.cons (sameEntry_rfl "duration" (outline_string _ _)) .nil)
  | @staged first second stages =>
      have items : List.Forall₂ (fun one other => one.outline = other.outline)
          (first.map stageOption) (second.map stageOption) := by
        rw [List.forall₂_map_left_iff, List.forall₂_map_right_iff]
        exact stages.imp fun _ _ => stageOption_same
      exact .cons (sameEntry_rfl "stages" (outline_array false items)) .nil
  | @scheduled first second scenarios =>
      have entries : List.Forall₂ (SameEntry true)
          (first.map fun scenario => (scenario.name, scenarioOption scenario))
          (second.map fun scenario => (scenario.name, scenarioOption scenario)) := by
        rw [List.forall₂_map_left_iff, List.forall₂_map_right_iff]
        exact scenarios.imp fun _ _ same => ⟨.inl rfl, scenarioOption_same same⟩
      exact .cons (sameEntry_rfl "scenarios" (outline_object true false entries)) .nil

theorem options_same {first second : Plan} (alike : first.AlikeInCode second) :
    (options first).value.outline = (options second).value.outline := by
  have thresholds : List.Forall₂ (SameEntry false) (thresholdOptions first.thresholds)
      (thresholdOptions second.thresholds) := by
    rw [alike.thresholds]
    exact List.forall₂_same.mpr fun _ _ => ⟨.inr rfl, rfl⟩
  exact outline_object false false
    (List.rel_append (shapeOptions_same (loadShape_alike alike)) thresholds)

namespace Job

variable {first second : Job}

/-! The sections. -/

theorem profileVariables_same (plans : first.plan.AlikeInCode second.plan)
    (profiles : first.profile = second.profile) :
    List.Forall₂ (fun entry another => entry.key = another.key) first.profileVariables
      second.profileVariables := by
  simp only [profileVariables, Plan.profileVariables, Entries.find?, profiles]
  have entries := plans.profiles
  generalize first.plan.profiles = one at entries ⊢
  generalize second.plan.profiles = other at entries ⊢
  induction entries with
  | nil => exact .nil
  | @cons firstEntry secondEntry firstRest secondRest same _ ih =>
      obtain ⟨firstName, firstVariables⟩ := firstEntry
      obtain ⟨secondName, secondVariables⟩ := secondEntry
      obtain ⟨names, keys⟩ := same
      have sameName : firstName = secondName := names
      subst sameName
      rw [List.lookup_cons, List.lookup_cons]
      split
      · exact keys
      · exact ih

theorem header_same (first second : Job) :
    bodyOutline first.header.value = bodyOutline second.header.value := by
  have nothing (job : Job) : bodyOutline job.header.value = [] := by
    rw [header]
    split <;> rfl
  rw [nothing, nothing]

theorem any_same {α : Type} {relation : α → α → Prop} (holds : α → Bool) {one other : List α}
    (alike : List.Forall₂ relation one other)
    (same : ∀ item another, relation item another → holds item = holds another) :
    one.any holds = other.any holds := by
  induction alike with
  | nil => rfl
  | cons related _ ih => rw [List.any_cons, List.any_cons, same _ _ related, ih]

theorem usesBasicAuth_same {one other : Request} (alike : one.AlikeInCode other) :
    usesBasicAuth one = usesBasicAuth other := by
  have present : one.credentials.isSome = other.credentials.isSome := by
    have credentials := alike.credentials
    generalize one.credentials = given at credentials ⊢
    generalize other.credentials = another at credentials ⊢
    cases credentials <;> rfl
  rw [usesBasicAuth, usesBasicAuth, alike.authKind, present]

theorem imports_same (plans : first.plan.AlikeInCode second.plan) : first.imports = second.imports := by
  rw [imports, imports, any_same usesBasicAuth plans.requests fun _ _ => usesBasicAuth_same]

theorem environment_same (plans : first.plan.AlikeInCode second.plan)
    (profiles : first.profile = second.profile) :
    bodyOutline first.environment = bodyOutline second.environment := by
  have constants (job : Job) : bodyOutline job.environment =
      job.profileVariables.flatMap fun entry => (variableStmt entry).outline := by
    have shown (entries : List Variable) : bodyOutline (entries.map variableStmt) =
        entries.flatMap fun entry => (variableStmt entry).outline := by
      induction entries with
      | nil => rfl
      | cons entry rest ih => rw [List.map_cons, bodyOutline_cons, ih, List.flatMap_cons]
    rw [environment]
    split
    · next empty => rw [List.isEmpty_iff.mp empty]; rfl
    · simp [bodyOutline_append, shown]
  rw [constants, constants]
  apply flatMap_eq_of_forall₂
  refine (profileVariables_same plans profiles).imp ?_
  intro one other keys
  rw [variableStmt, variableStmt, keys]
  exact outline_declare false "const" other.key (outline_binary "||" rfl (outline_string _ _))

theorem baseUrl_same (plans : first.plan.AlikeInCode second.plan)
    (profiles : first.profile = second.profile) : first.baseUrl.value = second.baseUrl.value := by
  have supplied := any_same (fun entry : Variable => entry.key = baseUrlName)
    (profileVariables_same plans profiles) fun one other same => by rw [same]
  simp only [baseUrl, plans.baseUrl, supplied]
  split
  · rfl
  · split <;> rfl

theorem chainingStore_same (plans : first.plan.AlikeInCode second.plan) :
    first.chainingStore = second.chainingStore := by
  rw [chainingStore, chainingStore, any_same _ plans.requests fun _ _ same => by rw [same.extraction]]

theorem blockBody_same (plans : first.plan.AlikeInCode second.plan) {one other : Request}
    (alike : one.AlikeInCode other) :
    bodyOutline (first.blockBody one) = bodyOutline (second.blockBody other) := by
  rw [blockBody, blockBody, plans.baseUrl, plans.thinkTime]
  exact requestBody_same alike _ _

theorem blocks_same (plans : first.plan.AlikeInCode second.plan) {one other : List Request}
    (requests : List.Forall₂ Request.AlikeInCode one other) :
    bodyOutline (first.blocks one).value = bodyOutline (second.blocks other).value := by
  rw [blocks_value, blocks_value, bodyOutline_flatMap, bodyOutline_flatMap]
  apply flatMap_eq_of_forall₂
  refine requests.imp ?_
  intro item another alike
  simp only [bodyOutline_cons, outline_group item.name another.name (blockBody_same plans alike)]

theorem getElem?_same {α β : Type} {relation : α → β → Prop} {one : List α} {other : List β}
    (alike : List.Forall₂ relation one other) : ∀ index : Nat,
    Option.Rel relation one[index]? other[index]? := by
  induction alike with
  | nil => intro index; exact .none
  | cons related _ ih =>
      intro index
      cases index with
      | zero => exact .some related
      | succ index => exact ih index

theorem selectedRequests_same (plans : first.plan.AlikeInCode second.plan) {one other : Scenario}
    (alike : one.AlikeInCode other) :
    List.Forall₂ Request.AlikeInCode (first.selectedRequests one) (second.selectedRequests other) := by
  rw [selectedRequests, selectedRequests, alike.selector, plans.requests.length_eq]
  generalize (select other.selector second.plan.requests.length).value = indices
  induction indices with
  | nil => exact .nil
  | cons index rest ih =>
      have found := getElem?_same plans.requests index
      rw [List.filterMap_cons, List.filterMap_cons]
      generalize first.plan.requests[index]? = request at found ⊢
      generalize second.plan.requests[index]? = another at found ⊢
      cases found with
      | none => exact ih
      | some same => exact .cons same ih

theorem scenarioFunctions_same (plans : first.plan.AlikeInCode second.plan) :
    bodyOutline first.scenarioFunctions.value = bodyOutline second.scenarioFunctions.value := by
  rw [scenarioFunctions_value, scenarioFunctions_value, bodyOutline_flatMap, bodyOutline_flatMap]
  apply flatMap_eq_of_forall₂
  refine plans.scenarios.imp ?_
  intro one other alike
  have names : one.functionName = other.functionName := by
    rw [Scenario.functionName, Scenario.functionName, alike.name]
  simp only [scenarioFunction_value, bodyOutline_cons, names,
    outline_function other.functionName true false (blocks_same plans (selectedRequests_same plans alike))]

theorem helpersFrom_same (plans : first.plan.AlikeInCode second.plan) {one other : List Request}
    (requests : List.Forall₂ Request.AlikeInCode one other) : ∀ index,
    bodyOutline (first.helpersFrom index one).value =
      bodyOutline (second.helpersFrom index other).value := by
  induction requests with
  | nil => intro index; rfl
  | cons alike _ ih =>
      intro index
      have body := blocks_same plans (.cons alike .nil)
      simp only [helpersFrom, Logged.value_bind, Logged.value_pure, bodyOutline_cons, ih (index + 1),
        outline_function (helperName index) false false body]

theorem casesFrom_same (plans : first.plan.AlikeInCode second.plan) {one other : List Request}
    (requests : List.Forall₂ Request.AlikeInCode one other) : ∀ index,
    caseOutline (first.casesFrom index one).value =
      caseOutline (second.casesFrom index other).value := by
  induction requests with
  | nil => intro index; rfl
  | @cons item another _ _ alike _ ih =>
      intro index
      have group := outline_group item.name another.name (blockBody_same plans alike)
      simp only [casesFrom, Logged.value_bind, Logged.value_pure, caseOutline_cons, bodyOutline_cons,
        block_value, group, ih (index + 1)]

theorem entryBody_same (plans : first.plan.AlikeInCode second.plan) :
    bodyOutline first.entryBody.value = bodyOutline second.entryBody.value := by
  simp only [entryBody, isEmpty_same plans.requests, plans.executionMode, plans.requests.length_eq]
  split
  · rfl
  · split
    · rfl
    · have cases := outline_switch (.reference "apiIndex") (casesFrom_same plans plans.requests 0)
      simp only [Logged.value_bind, Logged.value_pure, bodyOutline_cons, cases]
    · exact blocks_same plans plans.requests

theorem bodyOutline_withPause (pause body : List Stmt) :
    bodyOutline (withPause pause body) = bodyOutline body ++ bodyOutline pause := by
  rw [withPause]
  split
  · next noPause => simp [List.isEmpty_iff.mp noPause]
  · split <;> simp [bodyOutline_append]

theorem functions_same (plans : first.plan.AlikeInCode second.plan) :
    bodyOutline first.functions.value = bodyOutline second.functions.value := by
  have pauses : first.pause = second.pause := by
    simp only [pause, plans.thinkTime]
  have entry : bodyOutline first.defaultFunction.value = bodyOutline second.defaultFunction.value := by
    have body : bodyOutline (withPause first.pause first.entryBody.value) =
        bodyOutline (withPause second.pause second.entryBody.value) := by
      rw [bodyOutline_withPause, bodyOutline_withPause, pauses, entryBody_same plans]
    rw [defaultFunction_value, defaultFunction_value, bodyOutline_cons, bodyOutline_cons,
      outline_function "default" true true body]
  rw [functions_value, functions_value, usesScenarios_same plans, plans.executionMode]
  split
  · exact scenarioFunctions_same plans
  · rw [bodyOutline_append, bodyOutline_append, entry]
    split
    · rw [parallelHelpers, parallelHelpers, helpersFrom_same plans plans.requests]
    · rfl

theorem program_same (plans : first.plan.AlikeInCode second.plan)
    (profiles : first.profile = second.profile) :
    bodyOutline first.program.value = bodyOutline second.program.value := by
  have options : bodyOutline first.optionsSection.value = bodyOutline second.optionsSection.value := by
    simp only [optionsSection_value, bodyOutline_cons,
      outline_declare true "const" "options" (options_same plans)]
  simp only [program_value, bodyOutline_append, header_same first second,
    imports_same plans, environment_same plans profiles, baseUrl_same plans profiles,
    chainingStore_same plans, options, functions_same plans]

theorem hasPlainCode_same {one other : Plan} (plans : one.AlikeInCode other) (plain : one.HasPlainCode) :
    other.HasPlainCode := by
  have requests : one.requests.flatMap Request.verbatimTexts =
      other.requests.flatMap Request.verbatimTexts := by
    apply flatMap_eq_of_forall₂
    refine plans.requests.imp ?_
    intro request another alike
    rw [Request.verbatimTexts, Request.verbatimTexts, map_eq_of_forall₂ alike.checks, alike.extraction]
  have names : one.scenarios.map Scenario.name = other.scenarios.map Scenario.name :=
    map_eq_of_forall₂ (plans.scenarios.imp fun _ _ alike => alike.name)
  have keys : (one.profiles.flatMap fun profile => profile.2.map Variable.key) =
      other.profiles.flatMap fun profile => profile.2.map Variable.key :=
    flatMap_eq_of_forall₂ (plans.profiles.imp fun _ _ alike => map_eq_of_forall₂ alike.2)
  rwa [Plan.HasPlainCode, Plan.verbatimTexts, requests, names, keys] at plain

theorem outline_text (job : Job) (plain : job.plan.HasPlainCode) :
    outline job.text.value = some (bodyOutline job.program.value) := by
  have lexed := lex_render isIndent_standardUnit 0 job.program.value (program_isSafe plain)
  have text : job.text.value = render standardUnit 0 job.program.value := rfl
  rw [outline, text, lexed]
  rfl

/-- Texts of literals and comments cannot inject code. The scripts of two plans that differ only in such texts
have the same tokens but for the text of the literals, or both would show a number that is too long. -/
theorem script_outline_eq (plans : first.plan.AlikeInCode second.plan)
    (profiles : first.profile = second.profile) (plain : first.plan.HasPlainCode) :
    (optionsAreWritable first.plan = true →
      ∃ firstText secondText tokens,
        first.script.value = .ok firstText ∧ second.script.value = .ok secondText ∧
          outline firstText = some tokens ∧ outline secondText = some tokens) ∧
    (optionsAreWritable first.plan = false →
      first.script.value = .error .written ∧ second.script.value = .error .written) := by
  have firstScript : first.script.value =
      if optionsAreWritable first.plan then .ok first.text.value else .error .written := rfl
  have secondScript : second.script.value =
      if optionsAreWritable first.plan then .ok second.text.value else .error .written := by
    rw [optionsAreWritable_same plans]
    rfl
  have firstOutline := outline_text first plain
  have secondOutline := outline_text second (hasPlainCode_same plans plain)
  rw [← program_same plans profiles] at secondOutline
  rw [firstScript, secondScript]
  constructor
  · intro writable
    rw [if_pos writable, if_pos writable]
    exact ⟨_, _, _, rfl, rfl, firstOutline, secondOutline⟩
  · intro unwritable
    simp [unwritable]

def planOfTexts (name value body user : String) : Plan := {
  name := name
  duration := value
  profiles := [("dev", [⟨"API_KEY", value⟩])]
  requests := [{
    name := name
    method := .post
    url := "https://api.example.com/items"
    body := body
    authKind := .basic
    credentials := some ⟨user, value⟩
    headers := [⟨"X-Key", body⟩]
    checks := [⟨name, "r.status === 200"⟩] }] }

def hostilePlan : Plan :=
  planOfTexts "*/ evil(); '); evil(); ('\u2028 evil() // \\" "\"\n'; evil(); '"
    "\x60; evil(); \x60$\x7btoken\x7d$" "$\x7b'"

def harmlessPlan : Plan := planOfTexts "Items" "10s" "id=$\x7btoken\x7d" "user"

theorem hostilePlan_alike : hostilePlan.AlikeInCode harmlessPlan where
  baseUrl := rfl
  users := rfl
  loadKind := rfl
  executionMode := rfl
  stages := .nil
  scenarios := .nil
  scenariosEnabled := rfl
  profiles := .cons ⟨rfl, .cons rfl .nil⟩ .nil
  thinkTime := rfl
  requests := .cons {
    method := rfl
    url := rfl
    body := by unfold SamePlaceholders; decide
    thinkTime := rfl
    authKind := rfl
    bearerToken := rfl
    hasBearerToken := Iff.rfl
    credentials := .some (by unfold SamePlaceholders; decide)
    headers := .cons ⟨rfl, by unfold SamePlaceholders; decide⟩ .nil
    extraction := rfl
    checks := .cons rfl .nil } .nil
  thresholds := rfl
  targetUsers := rfl

theorem script_outline_hostilePlan :
    hostilePlan.AlikeInCode harmlessPlan ∧ hostilePlan.HasPlainCode ∧
      ∃ firstText secondText tokens,
        (mk hostilePlan "dev" (.ofEpoch 0) "script.js").script.value = .ok firstText ∧
          (mk harmlessPlan "dev" (.ofEpoch 0) "script.js").script.value = .ok secondText ∧
          outline firstText = some tokens ∧ outline secondText = some tokens := by
  have plain : hostilePlan.HasPlainCode := by
    unfold Plan.HasPlainCode
    decide +kernel
  have writable : optionsAreWritable hostilePlan = true := by decide +kernel
  exact ⟨hostilePlan_alike, plain, (@script_outline_eq (mk hostilePlan "dev" (.ofEpoch 0) "script.js")
    (mk harmlessPlan "dev" (.ofEpoch 0) "script.js") hostilePlan_alike rfl plain).1 writable⟩

end Job

end LoadScript.Compile
