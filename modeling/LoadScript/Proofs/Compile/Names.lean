import LoadScript.Proofs.Compile.Declarations
import LoadScript.Proofs.Compile.EntryPoints
import LoadScript.Proofs.Compile.Safety
import LoadScript.Proofs.Plan.Loaded
import LoadScript.Proofs.Script.PropertyNames
import LoadScript.Proofs.Text.Words
import LoadScript.Script.Identifier

/-!
Which scripts declare legal names, and each of them once. The names that the compiler chooses are legal and
distinct. The plan chooses the others, the keys of the profile and the names of the scenarios, and they are
taken as they are: a script is as legal as its plan's names.
-/

namespace LoadScript

/-! Plans without problems. -/

theorem Scenario.functionName_ne_empty {scenario : Scenario}
    (named : Text.isAllBlank scenario.name = false) : scenario.functionName ≠ "" := by
  obtain ⟨noneEmpty, onlyBlanks⟩ := Text.wordsOf_solid scenario.name.toList
  rw [functionName, Text.words]
  cases words : Text.wordsOf scenario.name.toList with
  | nil =>
      rw [Text.isAllBlank, List.all_eq_true.mpr (onlyBlanks words)] at named
      cases named
  | cons first others =>
      have solid : String.ofList first ≠ "" := by
        rintro empty
        rw [String.ofList_eq_empty_iff.mp empty] at words
        exact noneEmpty (words ▸ List.mem_cons_self)
      cases others with
      | nil => simpa using solid
      | cons second others => simp [String.intercalate_cons_cons, solid]

theorem Plan.named_of_problems {plan : Plan} (complete : plan.problems = [])
    (uses : plan.usesScenarios = true) :
    ∀ scenario ∈ plan.scenarios, Text.isAllBlank scenario.name = false := by
  intro scenario member
  simp only [problems, uses, if_true, List.append_eq_nil_iff, List.flatMap_eq_nil_iff] at complete
  have noProblem := complete.2 scenario member
  simp only [scenarioProblems, List.append_eq_nil_iff] at noProblem
  simpa using noProblem.1

theorem Plan.profileVariables_areLoaded {document : Json} {plan : Plan}
    (read : Document.readPlan document = .ok plan) (profile : String) :
    Variable.AreLoaded (plan.profileVariables profile) := by
  rw [profileVariables]
  cases found : plan.profiles.find? profile with
  | none => exact ⟨by simp, by simp, by simp⟩
  | some declared =>
      obtain ⟨before, after, whole, -⟩ := List.lookup_eq_some_iff.mp found
      exact Document.readPlan_variables read (profile, declared) (by simp [whole])

namespace Compile.Job

open Script

/-! The names that the compiler chooses. -/

def standingNames : List String :=
  ["http", "check", "group", "sleep", "encoding", baseUrlName, chainStore, "options"]

def helperNames (job : Job) : List String :=
  if !job.plan.usesScenarios && job.plan.executionMode = .parallel then
    (List.range job.plan.requests.length).map helperName
  else []

def ownStandingNames (job : Job) : List String :=
  ["http", "check", "group", "sleep"] ++
    (if job.plan.requests.any usesBasicAuth then ["encoding"] else []) ++
    (if job.declaresBaseUrl then [baseUrlName] else []) ++
    (if job.plan.keepsValues then [chainStore] else []) ++ ["options"]

def ownNames (job : Job) : List String := job.ownStandingNames ++ job.helperNames

theorem ownStandingNames_sublist (job : Job) : job.ownStandingNames.Sublist standingNames := by
  have maybe (condition : Bool) (name : String) :
      (if condition then [name] else []).Sublist [name] := by
    cases condition
    · exact List.nil_sublist _
    · exact List.Sublist.refl _
  exact ((((List.Sublist.refl _).append (maybe _ "encoding")).append (maybe _ baseUrlName)).append
    (maybe _ chainStore)).append (List.Sublist.refl ["options"])

theorem toList_helperName (index : Nat) :
    (helperName index).toList = 'a' :: 'p' :: 'i' :: Nat.toDigits 10 index := by
  have digits : (toString index).toList = Nat.toDigits 10 index := String.toList_ofList
  rw [helperName, String.toList_append, digits]
  rfl

theorem exists_of_mem_helperNames {job : Job} {name : String} (helper : name ∈ job.helperNames) :
    ∃ index, name = helperName index := by
  rw [helperNames] at helper
  split at helper
  · obtain ⟨index, -, rfl⟩ := List.mem_map.mp helper
    exact ⟨index, rfl⟩
  · cases helper

/-- No other name of the compiler, and no reserved word, starts as the helpers do. -/
theorem helperName_notMem {names : List String}
    (others : ∀ name ∈ names, name.toList.take 3 ≠ ['a', 'p', 'i']) (index : Nat) :
    helperName index ∉ names := by
  intro member
  exact others _ member (by rw [toList_helperName]; rfl)

theorem isIdentifier_of_isPlainName {name : String} (plain : isPlainName name.toList = true)
    (free : name ∉ reservedWords) : isIdentifier name = true := by
  rw [isIdentifier]
  cases characters : name.toList with
  | nil => simp [characters, isPlainName] at plain
  | cons first rest =>
      rw [characters, isPlainName, Bool.and_eq_true, List.all_eq_true] at plain
      have parts : ∀ character ∈ rest, continuesName character = true :=
        fun character member => continuesName_of_isIdentifierPart (plain.2 character member)
      simp [startsName_of_isIdentifierStart plain.1, List.all_eq_true.mpr parts, free]

theorem isIdentifier_helperName (index : Nat) : isIdentifier (helperName index) = true := by
  have free : helperName index ∉ reservedWords := helperName_notMem (by decide) index
  have digits : (Nat.toDigits 10 index).all isIdentifierPart = true :=
    List.all_eq_true.mpr fun digit member => by
      rw [isIdentifierPart, Double.allDigits_toDigits index digit member, Bool.or_true]
  have letters : isIdentifierStart 'a' = true ∧ isIdentifierPart 'p' = true ∧ isIdentifierPart 'i' = true := by
    decide
  refine isIdentifier_of_isPlainName ?_ free
  rw [toList_helperName, isPlainName]
  simp [letters, digits]

theorem isIdentifier_ownNames (job : Job) : ∀ name ∈ job.ownNames, isIdentifier name = true := by
  intro name own
  rcases List.mem_append.mp own with standing | helper
  · have all : ∀ name ∈ standingNames, isPlainName name.toList = true ∧ name ∉ reservedWords := by decide
    have plain := all name ((ownStandingNames_sublist job).subset standing)
    exact isIdentifier_of_isPlainName plain.1 plain.2
  · obtain ⟨index, rfl⟩ := exists_of_mem_helperNames helper
    exact isIdentifier_helperName index

theorem nodup_ownNames (job : Job) : job.ownNames.Nodup := by
  have standing : job.ownStandingNames.Nodup :=
    (ownStandingNames_sublist job).nodup (by decide)
  have helpers : job.helperNames.Nodup := by
    rw [helperNames]
    split
    · exact nodup_helpers _
    · exact List.nodup_nil
  rw [ownNames, List.nodup_append]
  refine ⟨standing, helpers, ?_⟩
  rintro name own helper used rfl
  obtain ⟨index, rfl⟩ := exists_of_mem_helperNames used
  exact helperName_notMem (by decide) index ((ownStandingNames_sublist job).subset own)

/-! The names that the plan chooses. -/

def keys (job : Job) : List String := job.profileVariables.map Variable.key

def scenarioNames (job : Job) : List String :=
  if job.plan.usesScenarios then job.plan.scenarios.map Scenario.functionName else []

theorem functionNames_eq (job : Job) : job.functionNames = job.helperNames ++ job.scenarioNames := by
  rw [functionNames, helperNames, scenarioNames]
  cases job.plan.usesScenarios <;> simp

theorem declaredNames_perm (job : Job) :
    (declaredNames job.program.value).Perm (job.ownNames ++ (job.keys ++ job.scenarioNames)) := by
  rw [declaredNames_program, declaredNames_imports, declaredNames_baseUrl,
    declaredNames_chainingStore, functionNames_eq, List.perm_iff_count]
  intro name
  simp only [ownNames, ownStandingNames, keys, List.count_append]
  omega

/-! Schedules. -/

def entryKeys : Expr → List String
  | .object entries _ _ => entries.map Prod.fst
  | _ => []

theorem empty_notMem_scenarioNames {job : Job} (complete : job.plan.problems = []) :
    "" ∉ job.scenarioNames := by
  rw [scenarioNames]
  split
  · next uses =>
      intro member
      obtain ⟨scenario, member, empty⟩ := List.mem_map.mp member
      exact scenario.functionName_ne_empty (Plan.named_of_problems complete uses scenario member) empty
  · exact List.not_mem_nil

theorem members_scenarios (job : Job) :
    ∀ schedule ∈ (Compile.options job.plan).value.members "scenarios",
      entryKeys schedule = job.plan.scenarios.map Scenario.name := by
  intro schedule member
  cases uses : job.plan.usesScenarios with
  | true =>
      rw [members_scenarios_scheduled uses, List.mem_singleton] at member
      rw [member, entryKeys, List.map_map]
      rfl
  | false =>
      rw [members_scenarios_single uses] at member
      cases member

/-- With a plan that has no problems, no name of a script is empty, and the names that the compiler chooses are legal
and all different. All names are legal if and only if those are that the plan chooses. No two are the same if and
only if the names of the scenarios differ from each other and from the keys of the profile, and the compiler declares
none of either for itself. No two entries of the schedule have one key if and only if the scenarios have different
names. -/
theorem declaredNames_wellFormed {document : Json} {plan : Plan}
    (read : Document.readPlan document = .ok plan) (complete : plan.problems = [])
    (profile scriptName : String) (generatedAt : Moment) :
    let job : Job := { plan, profile, generatedAt, scriptName }
    let names := declaredNames job.program.value
    "" ∉ names ∧ (∀ name ∈ job.ownNames, isIdentifier name = true) ∧ job.ownNames.Nodup ∧
      ((∀ name ∈ names, isIdentifier name = true) ↔
        ∀ name ∈ job.keys ++ job.scenarioNames, isIdentifier name = true) ∧
      (names.Nodup ↔
        job.scenarioNames.Nodup ∧ (∀ key ∈ job.keys, key ∉ job.scenarioNames) ∧
          ∀ name ∈ job.keys ++ job.scenarioNames, name ∉ job.ownNames) ∧
      ∃ options, exportedValues "options" job.program.value = [options] ∧
        ∀ schedule ∈ options.members "scenarios",
          ((entryKeys schedule).Nodup ↔ (plan.scenarios.map Scenario.name).Nodup) := by
  intro job names
  have order : names.Perm (job.ownNames ++ (job.keys ++ job.scenarioNames)) := declaredNames_perm job
  have loaded : Variable.AreLoaded job.profileVariables := Plan.profileVariables_areLoaded read profile
  refine ⟨?_, isIdentifier_ownNames job, nodup_ownNames job, ?_, ?_, _, exportedValues_program job, ?_⟩
  · rw [order.mem_iff, List.mem_append, List.mem_append]
    rintro (own | key | scenario)
    · exact absurd (isIdentifier_ownNames job "" own) (by decide)
    · obtain ⟨entry, member, empty⟩ := List.mem_map.mp key
      exact loaded.nonempty entry member empty
    · exact empty_notMem_scenarioNames complete scenario
  · constructor
    · intro legal name chosen
      exact legal name (order.mem_iff.mpr (List.mem_append_right _ chosen))
    · intro legal name declared
      rcases List.mem_append.mp (order.mem_iff.mp declared) with own | chosen
      · exact isIdentifier_ownNames job name own
      · exact legal name chosen
  · rw [order.nodup_iff, List.nodup_append, List.nodup_append]
    constructor
    · rintro ⟨-, ⟨-, scenarios, apart⟩, foreign⟩
      exact ⟨scenarios, fun key member used => apart key member key used rfl,
        fun name chosen own => foreign name own name chosen rfl⟩
    · rintro ⟨scenarios, apart, foreign⟩
      refine ⟨nodup_ownNames job, ⟨loaded.apart, scenarios, ?_⟩, ?_⟩
      · rintro key member name used rfl
        exact apart key member used
      · rintro name own other chosen rfl
        exact foreign name chosen own
  · intro schedule member
    rw [members_scenarios job schedule member]

def shopDocument : Json := .object [
  ("apis", .array [.object [("url", .string "/items")]]),
  ("enableScenarios", .boolean true),
  ("scenarios", .array [.object [("name", .string "log in")], .object [("name", .string "search")]]),
  ("envVars", .object [("dev", .array [.object [("key", .string "BASE_URL")]])])]

def shopPlan : Plan := {
  requests := [{ name := "", url := "/items" }]
  scenariosEnabled := true
  scenarios := [{ name := "log in" }, { name := "search" }]
  profiles := [("dev", [{ key := "BASE_URL" }])] }

theorem declaredNames_wellFormed_shop :
    Document.readPlan shopDocument = .ok shopPlan ∧ shopPlan.problems = [] ∧
      let program := (Job.mk shopPlan "dev" (.ofEpoch 0) "script.js").program.value
      (declaredNames program).Nodup ∧ ∀ name ∈ declaredNames program, isIdentifier name = true := by
  have read : Document.readPlan shopDocument = .ok shopPlan := by rfl
  have complete : shopPlan.problems = [] := by decide
  obtain ⟨-, -, -, legal, apart, -⟩ :=
    declaredNames_wellFormed read complete "dev" "script.js" (.ofEpoch 0)
  exact ⟨read, complete, apart.mpr (by decide), legal.mpr (by decide)⟩

def clashingDocument : Json := .object [
  ("apis", .array [.object []]),
  ("enableScenarios", .boolean true),
  ("scenarios", .array [.object [("name", .string "http")], .object [("name", .string "http")]]),
  ("envVars", .object [("dev", .array [.object [("key", .string "API-KEY")]])])]

def clashingPlan : Plan := {
  requests := [{ name := "" }]
  scenariosEnabled := true
  scenarios := [{ name := "http" }, { name := "http" }]
  profiles := [("dev", [{ key := "API-KEY" }])] }

/-- A plan without problems may still name what is no identifier, a module that is imported, and one
scenario twice. -/
theorem declaredNames_clashing :
    Document.readPlan clashingDocument = .ok clashingPlan ∧ clashingPlan.problems = [] ∧
      let program := (Job.mk clashingPlan "dev" (.ofEpoch 0) "script.js").program.value
      (∃ name ∈ declaredNames program, isIdentifier name = false) ∧ ¬ (declaredNames program).Nodup ∧
        ∃ options, exportedValues "options" program = [options] ∧
          ∃ schedule ∈ options.members "scenarios", ¬ (entryKeys schedule).Nodup := by
  have names : declaredNames (Job.mk clashingPlan "dev" (.ofEpoch 0) "script.js").program.value =
      ["http", "check", "group", "sleep", "API-KEY", "options", "http", "http"] := by
    rw [declaredNames_program]
    decide
  refine ⟨by rfl, by decide, ?_, ?_, _, exportedValues_program _, ?_⟩
  · rw [names]
    exact ⟨"API-KEY", by decide, by decide⟩
  · rw [names]
    decide
  · refine ⟨_, by rw [members_scenarios_scheduled (by decide)]; exact List.mem_singleton_self _, ?_⟩
    decide

end Compile.Job

end LoadScript
