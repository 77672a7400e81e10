import LoadScript.Proofs.Compile.Names

/-!
The constant of the base URL. The section of the environment declares it, or else the section of the base URL,
and requests refer to it whose URLs are joined to the base URL.
-/

namespace LoadScript.Compile.Job

open Script

def CanDeclareBaseUrl (job : Job) : Prop :=
  (∃ entry ∈ job.profileVariables, entry.key = baseUrlName) ∨
    (job.plan.baseUrl ≠ "" ∧ baseUrlName ∉ placeholders job.plan.baseUrl)

instance (job : Job) : Decidable job.CanDeclareBaseUrl := by
  unfold CanDeclareBaseUrl
  infer_instance

def baseUrlWarning (job : Job) : Log.Record where
  level := .warning
  channel := assemblyChannel
  message := "Base URL " ++ Text.quoted job.plan.baseUrl ++ " refers to BASE_URL but profile " ++
    Text.quoted job.profile ++ " does not define it"

/-! How often it is declared. -/

theorem mem_keys_iff (job : Job) (name : String) :
    name ∈ job.keys ↔ ∃ entry ∈ job.profileVariables, entry.key = name := List.mem_map

theorem any_key_iff (job : Job) :
    (job.profileVariables.any fun entry => entry.key = baseUrlName) = true ↔ baseUrlName ∈ job.keys := by
  simp only [List.any_eq_true, decide_eq_true_eq, mem_keys_iff]

theorem declaresBaseUrl_iff (job : Job) :
    job.declaresBaseUrl = true ↔ baseUrlName ∉ job.keys ∧ job.CanDeclareBaseUrl := by
  rw [declaresBaseUrl, CanDeclareBaseUrl, ← mem_keys_iff]
  simp only [Bool.and_eq_true, Bool.not_eq_true', ← Bool.not_eq_true, Bool.or_eq_true, decide_eq_true_eq,
    any_key_iff, List.contains_iff_mem]
  tauto

theorem mem_ownNames_baseUrl (job : Job) : baseUrlName ∈ job.ownNames ↔ job.declaresBaseUrl = true := by
  have noHelper : baseUrlName ∉ job.helperNames := by
    intro helper
    obtain ⟨index, same⟩ := exists_of_mem_helperNames helper
    have notHelper : helperName index ∉ [baseUrlName] := helperName_notMem (by decide) index
    exact notHelper (same ▸ List.mem_cons_self)
  have others : baseUrlName ∉ ["http", "check", "group", "sleep"] ∧ baseUrlName ∉ ["encoding"] ∧
      baseUrlName ∉ [chainStore] ∧ baseUrlName ∉ ["options"] := by decide
  have notOptional (condition : Bool) {names : List String} (notIn : baseUrlName ∉ names) :
      baseUrlName ∉ if condition then names else [] := by
    cases condition
    · exact List.not_mem_nil
    · exact notIn
  simp only [ownNames, ownStandingNames, List.mem_append, noHelper, others, notOptional _ others.2.1,
    notOptional _ others.2.2.1, false_or, or_false]
  cases job.declaresBaseUrl <;> simp

theorem count_baseUrl {job : Job} (keysApart : job.keys.Nodup) :
    (declaredNames job.program.value).count baseUrlName =
      (if job.CanDeclareBaseUrl then 1 else 0) + job.scenarioNames.count baseUrlName := by
  rw [(declaredNames_perm job).count_eq, List.count_append, List.count_append, (nodup_ownNames job).count,
    keysApart.count]
  simp only [mem_ownNames_baseUrl, declaresBaseUrl_iff]
  by_cases supplied : baseUrlName ∈ job.keys
  · have can : job.CanDeclareBaseUrl := .inl ((job.mem_keys_iff _).mp supplied)
    simp [supplied, can]
  · simp [supplied]

/-! Whether it is there. -/

theorem baseUrl_of_declares {job : Job} (declares : job.declaresBaseUrl = true) :
    ∃ value, job.baseUrl.value = [.constant baseUrlName value, .blank] := by
  obtain ⟨needed, declarable⟩ := Bool.and_eq_true_iff.mp declares
  rw [Bool.not_eq_true'] at needed declarable
  rw [baseUrl, if_neg (by rw [needed]; exact Bool.false_ne_true),
    if_neg (by rw [declarable]; exact Bool.false_ne_true)]
  exact ⟨_, rfl⟩

theorem constant_of_canDeclare {job : Job} (can : job.CanDeclareBaseUrl) :
    ∃ value, .constant baseUrlName value ∈ job.program.value := by
  rw [program_value]
  by_cases supplied : baseUrlName ∈ job.keys
  · obtain ⟨entry, member, named⟩ := (job.mem_keys_iff _).mp supplied
    have listed : ¬ job.profileVariables.isEmpty = true := fun empty => by
      rw [List.isEmpty_iff.mp empty] at member
      cases member
    have declared : variableStmt entry ∈ job.environment := by
      rw [environment, if_neg listed]
      exact List.mem_append_left _ (List.mem_append_right _ (List.mem_map_of_mem member))
    rw [variableStmt, named] at declared
    refine ⟨.binary "||" (.reference ("__ENV." ++ baseUrlName)) (.string entry.value), ?_⟩
    simp only [List.mem_append, declared, true_or, or_true]
  · obtain ⟨value, declared⟩ := baseUrl_of_declares (job.declaresBaseUrl_iff.mpr ⟨supplied, can⟩)
    exact ⟨value, by simp [declared]⟩

theorem baseUrlWarning_mem_baseUrl {job : Job} (configured : job.plan.baseUrl ≠ "")
    (cannot : ¬ job.CanDeclareBaseUrl) : job.baseUrlWarning ∈ job.baseUrl.records := by
  rw [CanDeclareBaseUrl, not_or, not_and_not_right] at cannot
  have notSupplied : ¬ (job.profileVariables.any fun entry => entry.key = baseUrlName) = true := by
    rw [any_key_iff, mem_keys_iff]
    exact cannot.1
  have circular : (placeholders job.plan.baseUrl).contains baseUrlName = true :=
    List.contains_iff_mem.mpr (cannot.2 configured)
  rw [baseUrl, if_neg (by simpa [configured] using notSupplied), if_pos circular]
  exact List.mem_cons_self

theorem baseUrl_records_subset (job : Job) : job.baseUrl.records ⊆ job.program.records := by
  intro record member
  rw [program]
  split <;> simp [member]

theorem program_records_subset (job : Job) : job.program.records ⊆ job.script.records := by
  intro record member
  simp only [script, text, Logged.records_bind, List.mem_append]
  exact .inl (.inr (.inl member))

/-! Who refers to it. -/

theorem pieces_joined (rest : String) :
    pieces (placeholder baseUrlName ++ rest) =
      .placeholder baseUrlName.toList :: piecesFrom 0 rest.toList := by
  rw [pieces, String.toList_append]
  rfl

theorem requestUrl_eq_resolveTemplate {url base : String} (configured : base ≠ "")
    (relative : isAbsolute url = false) :
    requestUrl url base = resolveTemplate (placeholder baseUrlName ++
      ("/" ++ String.ofList (url.toList.dropWhile (· = '/')))) := by
  have joined : (base != "" && !isAbsolute url) = true := by simp [configured, relative]
  rw [requestUrl, if_pos joined, String.append_assoc, resolve, if_neg]
  rw [placeholders, pieces_joined]
  simp

theorem requestUrl_joined {url base : String} (configured : base ≠ "") (relative : isAbsolute url = false) :
    ∃ parts, requestUrl url base = .template (.insert (.reference baseUrlName) :: parts) := by
  have upper : referenceName (String.ofList baseUrlName.toList) = baseUrlName := by decide
  rw [requestUrl_eq_resolveTemplate configured relative, resolveTemplate, templateParts, pieces_joined,
    List.map_cons, Piece.toPart, upper]
  exact ⟨_, rfl⟩

/-- The constant of the base URL is declared once if the profile has a variable of its name or the base URL can
be written without itself, and else not at all, apart from functions of scenarios that have its name. If it is
not declared although there is a base URL, then a warning names the base URL; and without this warning every
request URL that is joined to the base URL refers to a constant that is there. -/
theorem baseUrl_declared {document : Json} {plan : Plan} (read : Document.readPlan document = .ok plan)
    (profile scriptName : String) (generatedAt : Moment) :
    let job : Job := { plan, profile, generatedAt, scriptName }
    (declaredNames job.program.value).count baseUrlName =
        (if job.CanDeclareBaseUrl then 1 else 0) + job.scenarioNames.count baseUrlName ∧
      (plan.baseUrl ≠ "" → ¬ job.CanDeclareBaseUrl → job.baseUrlWarning ∈ job.program.records) ∧
      (job.baseUrlWarning ∉ job.script.records →
        ∀ request ∈ plan.requests, plan.baseUrl ≠ "" → isAbsolute request.url = false →
          (∃ parts, requestUrl request.url plan.baseUrl =
              .template (.insert (.reference baseUrlName) :: parts)) ∧
            ∃ value, .constant baseUrlName value ∈ job.program.value) := by
  intro job
  have keysApart : job.keys.Nodup := (Plan.profileVariables_areLoaded read profile).apart
  have warned (configured : plan.baseUrl ≠ "") (cannot : ¬ job.CanDeclareBaseUrl) :
      job.baseUrlWarning ∈ job.program.records :=
    job.baseUrl_records_subset (baseUrlWarning_mem_baseUrl configured cannot)
  refine ⟨count_baseUrl keysApart, warned, ?_⟩
  intro silent request _ configured relative
  have can : job.CanDeclareBaseUrl := by
    by_contra cannot
    exact silent (job.program_records_subset (warned configured cannot))
  exact ⟨requestUrl_joined configured relative, constant_of_canDeclare can⟩

def relativeDocument : Json := .object [
  ("baseUrl", .string "http://h"), ("apis", .array [.object [("url", .string "/items")]])]

def relativePlan : Plan := { baseUrl := "http://h", requests := [{ name := "", url := "/items" }] }

theorem baseUrl_declared_relative :
    Document.readPlan relativeDocument = .ok relativePlan ∧
      let job : Job := { plan := relativePlan, generatedAt := .ofEpoch 0 }
      (declaredNames job.program.value).count baseUrlName = 1 := by
  have read : Document.readPlan relativeDocument = .ok relativePlan := by rfl
  obtain ⟨once, -, -⟩ := baseUrl_declared read "dev" "script.js" (.ofEpoch 0)
  exact ⟨read, once.trans (by decide)⟩

def namesakeDocument : Json := .object [
  ("baseUrl", .string "http://h"), ("enableScenarios", .boolean true),
  ("scenarios", .array [.object [("name", .string "BASE_URL")]])]

def namesakePlan : Plan :=
  { baseUrl := "http://h", scenariosEnabled := true, scenarios := [{ name := "BASE_URL" }] }

/-- A scenario may have the name of the constant, and then a function and the constant share it. -/
theorem baseUrl_declared_twice :
    Document.readPlan namesakeDocument = .ok namesakePlan ∧
      let job : Job := { plan := namesakePlan, generatedAt := .ofEpoch 0 }
      (declaredNames job.program.value).count baseUrlName = 2 := by
  refine ⟨by rfl, ?_⟩
  intro job
  rw [declaredNames_program]
  decide

end LoadScript.Compile.Job
