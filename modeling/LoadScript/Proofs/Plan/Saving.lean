import LoadScript.Plan.Writer
import LoadScript.Proofs.Plan.Loaded

/-!
A plan that was loaded is saved as a document that gives back the plan, apart from bearer tokens that no
request sends.
-/

namespace LoadScript

def Request.saved (request : Request) : Request :=
  { request with bearerToken := if request.authKind = .bearer then request.bearerToken else "" }

def Plan.saved (plan : Plan) : Plan :=
  { plan with requests := plan.requests.map Request.saved }

namespace Document

section Fields

variable {members : Entries Json} {key : String}

theorem textField_of_find? {value : String} (default : String)
    (found : members.find? key = some (.string value)) :
    textField members key default = .ok value := by
  rw [textField, field?, found]

theorem flagField_of_find? {value : Bool} (default : Bool)
    (found : members.find? key = some (.boolean value)) :
    flagField members key default = .ok value := by
  rw [flagField, field?, found]

theorem wholeField_of_find? {value : Int} (default : Int)
    (found : members.find? key = some (.whole value)) :
    wholeField members key default = .ok value := by
  rw [wholeField, field?, found]

theorem numberField_of_find? {value : Double} (default : Double)
    (found : members.find? key = some (.real value)) :
    numberField members key default = .ok value := by
  rw [numberField, field?, found]

theorem sectionField_of_find? {part : Entries Json}
    (found : members.find? key = some (.object part)) : sectionField members key = .ok part := by
  rw [sectionField, field?, found]

theorem choiceField_of_find? {α : Type} {choices : List α} {name : α → String} {choice : α}
    (default : α) (found : members.find? key = some (.string (name choice)))
    (chosen : choices.find? (fun other => name other = name choice) = some choice) :
    choiceField choices name members key default = .ok choice := by
  rw [choiceField, textField_of_find? _ found]
  simp only [bind, Except.bind, chosen]
  rfl

theorem entriesField_of_find? {α : Type} {values : List α} {convert : α → Json} {back : α → α}
    {read : Entries Json → Read α} (found : members.find? key = some (.array (values.map convert)))
    (each : ∀ value ∈ values, ∃ fields,
      convert value = .object fields ∧ read fields = .ok (back value)) :
    ∃ entries, entriesField members key = .ok entries ∧
      entries.mapM read = .ok (values.map back) := by
  rw [entriesField, field?, found]
  clear found
  induction values with
  | nil => exact ⟨[], rfl, rfl⟩
  | cons value values ih =>
      obtain ⟨fields, converted, fieldsRead⟩ := each value List.mem_cons_self
      obtain ⟨entries, entriesTaken, entriesRead⟩ :=
        ih fun other found => each other (List.mem_cons_of_mem _ found)
      refine ⟨fields :: entries, ?_, ?_⟩
      · simp only [] at entriesTaken ⊢
        rw [List.map_cons, converted, List.mapM_cons, entriesTaken]
        rfl
      · rw [List.mapM_cons, fieldsRead, entriesRead]
        rfl

end Fields

theorem readHeader_toJson (header : Header) :
    ∃ fields, header.toJson = .object fields ∧ readHeader fields = .ok header := by
  refine ⟨_, rfl, ?_⟩
  simp [readHeader, textField, field?, Entries.find?, List.lookup_cons, bind, Except.bind, pure,
    Except.pure]

theorem readCheck_toJson (check : Check) :
    ∃ fields, check.toJson = .object fields ∧ readCheck fields = .ok check := by
  refine ⟨_, rfl, ?_⟩
  simp [readCheck, textField, field?, Entries.find?, List.lookup_cons, bind, Except.bind, pure,
    Except.pure]

theorem readFormField_toJson (field : FormField) :
    ∃ fields, field.toJson = .object fields ∧ readFormField fields = .ok field := by
  refine ⟨_, rfl, ?_⟩
  simp [readFormField, textField, flagField, field?, Entries.find?, List.lookup_cons, bind,
    Except.bind, pure, Except.pure]

theorem readStage_toJson (stage : Stage) :
    ∃ fields, stage.toJson = .object fields ∧ readStage fields = .ok stage := by
  refine ⟨_, rfl, ?_⟩
  simp [readStage, textField, wholeField, field?, Entries.find?, List.lookup_cons, bind,
    Except.bind, pure, Except.pure]

theorem readScenario_toJson (scenario : Scenario) :
    ∃ fields, scenario.toJson = .object fields ∧ readScenario fields = .ok scenario := by
  refine ⟨_, rfl, ?_⟩
  have executorRead (members : Entries Json)
      (found : members.find? "executor" = some (.string scenario.executor.name)) :
      choiceField Executor.all Executor.name members "executor" .rampingUsers =
        .ok scenario.executor :=
    choiceField_of_find? _ found (by cases scenario.executor <;> rfl)
  rw [readScenario, executorRead _ (by simp [Entries.find?, List.lookup_cons])]
  simp [textField, wholeField, field?, Entries.find?, List.lookup_cons, bind, Except.bind, pure,
    Except.pure]

theorem readExtraction_toJson (extraction : Extraction) :
    ∃ fields, extraction.toJson = .object fields ∧ readExtraction fields = .ok extraction := by
  refine ⟨_, rfl, ?_⟩
  simp [readExtraction, textField, flagField, field?, Entries.find?, List.lookup_cons, bind,
    Except.bind, pure, Except.pure]

theorem readCredentials_toJson (credentials : Credentials) :
    readCredentials (some credentials.toJson) = .ok (some credentials) := by
  simp [readCredentials, Credentials.toJson, textField, field?, Entries.find?, List.lookup_cons,
    bind, Except.bind, pure, Except.pure]

theorem readForm_toJson (form : Form) : readForm (some form.toJson) = .ok (some form) := by
  have fieldsFound : Entries.find? [
      ("entries", Json.array (form.fields.map FormField.toJson)),
      ("hasFile", .boolean form.hasFile)] "entries" =
        some (.array (form.fields.map FormField.toJson)) := by
    simp [Entries.find?]
  obtain ⟨entries, entriesTaken, entriesRead⟩ :=
    entriesField_of_find? fieldsFound fun field _ => readFormField_toJson field
  rw [List.map_id'] at entriesRead
  simp [readForm, Form.toJson, entriesTaken, entriesRead, flagField, field?, Entries.find?,
    List.lookup_cons, bind, Except.bind, pure, Except.pure]

theorem readMethod_of_find? {members : Entries Json} {method : Method}
    (found : members.find? "method" = some (.string method.name)) :
    readMethod members = .ok method := by
  have known : Method.ofName? (Text.upper method.name) = some method := by
    cases method <;> decide +kernel
  rw [readMethod, textField_of_find? _ found]
  simp only [bind, Except.bind, known]
  rfl

structure AreRequestMembers (request : Request) (members : Entries Json) : Prop where
  name : members.find? "name" = some (.string request.name)
  method : members.find? "method" = some (.string request.method.name)
  url : members.find? "url" = some (.string request.url)
  body : members.find? "body" = some (.string request.body)
  thinkTime : members.find? "thinkTime" = some (.real request.thinkTime)
  authKind : members.find? "authType" = some (.string request.authKind.name)
  headers : members.find? "headers" = some (.array (request.headers.map Header.toJson))
  checks : members.find? "checks" = some (.array (request.checks.map Check.toJson))
  extraction : members.find? "extraction" = some request.extraction.toJson
  bearerToken : members.find? "bearerToken" =
    if request.authKind = .bearer then some (.string request.bearerToken) else none
  credentials : members.find? "basicAuth" = request.credentials.map Credentials.toJson
  form : members.find? "form" = request.form.map Form.toJson

theorem areRequestMembers_toJson (request : Request) :
    ∃ members, request.toJson = .object members ∧ AreRequestMembers request members := by
  refine ⟨_, rfl, ?_⟩
  constructor <;>
    by_cases bearer : request.authKind = .bearer <;> cases request.credentials <;>
    cases request.form <;> simp [bearer, Entries.find?, List.lookup_cons]

theorem readRequest_toJson (request : Request) :
    ∃ fields, request.toJson = .object fields ∧ readRequest fields = .ok request.saved := by
  obtain ⟨members, written, found⟩ := areRequestMembers_toJson request
  refine ⟨members, written, ?_⟩
  obtain ⟨part, partWritten, extractionRead⟩ := readExtraction_toJson request.extraction
  have partTaken := sectionField_of_find? (partWritten ▸ found.extraction)
  have authKindRead : choiceField AuthKind.all AuthKind.name members "authType" .none =
      .ok request.authKind :=
    choiceField_of_find? _ found.authKind (by cases request.authKind <;> rfl)
  have tokenRead : textField members "bearerToken" "" =
      .ok (if request.authKind = .bearer then request.bearerToken else "") := by
    rw [textField, field?, found.bearerToken]
    by_cases bearer : request.authKind = .bearer <;> simp only [bearer, ↓reduceIte]
  obtain ⟨headers, headersTaken, headersRead⟩ :=
    entriesField_of_find? found.headers fun header _ => readHeader_toJson header
  obtain ⟨checks, checksTaken, checksRead⟩ :=
    entriesField_of_find? found.checks fun check _ => readCheck_toJson check
  rw [List.map_id'] at headersRead checksRead
  have credentialsRead : readCredentials (Entries.find? members "basicAuth") = .ok request.credentials := by
    rw [found.credentials]
    cases request.credentials with
    | none => rfl
    | some credentials => exact readCredentials_toJson credentials
  have formRead : readForm (Entries.find? members "form") = .ok request.form := by
    rw [found.form]
    cases request.form with
    | none => rfl
    | some form => exact readForm_toJson form
  simp only [readRequest, readMethod_of_find? found.method, partTaken,
    textField_of_find? _ found.name, textField_of_find? _ found.url,
    textField_of_find? _ found.body, numberField_of_find? _ found.thinkTime, authKindRead,
    tokenRead, headersTaken, headersRead, checksTaken, checksRead, extractionRead, credentialsRead,
    formRead, bind, Except.bind]
  rfl

theorem readVariable_toJson (profile : String) {entry : Variable} {before : Entries String}
    (trimmed : Text.trim entry.key = entry.key) (nonempty : entry.key ≠ "")
    (fresh : entry.key ∉ before.map Prod.fst) :
    readVariable profile before entry.toJson = .ok (before ++ [(entry.key, entry.value)]) := by
  have keyRead : textField [("key", .string entry.key), ("value", .string entry.value)] "key" "" =
      .ok entry.key := by
    simp [textField, field?, Entries.find?]
  have valueRead : textField [("key", .string entry.key), ("value", .string entry.value)] "value" "" =
      .ok entry.value := by
    simp [textField, field?, Entries.find?, List.lookup_cons]
  simp only [Variable.toJson, readVariable, keyRead, valueRead, bind, Except.bind, trimmed,
    if_neg nonempty, Entries.put_of_fresh fresh]
  rfl

theorem readVariables_toJson (profile : String) {declared : List Variable}
    (trimmed : ∀ entry ∈ declared, Text.trim entry.key = entry.key)
    (nonempty : ∀ entry ∈ declared, entry.key ≠ "") (before : Entries String)
    (apart : (before.map Prod.fst ++ declared.map Variable.key).Nodup) :
    (declared.map Variable.toJson).foldlM (readVariable profile) before =
      .ok (before ++ declared.map fun entry => (entry.key, entry.value)) := by
  induction declared generalizing before with
  | nil =>
      rw [List.map_nil, List.foldlM_nil, List.map_nil, List.append_nil]
      rfl
  | cons entry rest ih =>
      have fresh : entry.key ∉ before.map Prod.fst := by
        intro found
        rw [List.map_cons, List.nodup_append] at apart
        exact apart.2.2 entry.key found entry.key List.mem_cons_self rfl
      have entryRead := readVariable_toJson profile (trimmed entry List.mem_cons_self)
        (nonempty entry List.mem_cons_self) fresh
      have restRead := ih (fun other found => trimmed other (List.mem_cons_of_mem _ found))
        (fun other found => nonempty other (List.mem_cons_of_mem _ found))
        (before ++ [(entry.key, entry.value)])
        (by rw [List.map_append, List.append_assoc]; exact apart)
      rw [List.map_cons, List.foldlM_cons, entryRead]
      rw [List.append_assoc] at restRead
      exact restRead

theorem readProfile_toJson (profile : String) {declared : List Variable}
    (loaded : Variable.AreLoaded declared) :
    readProfile profile (.array (declared.map Variable.toJson)) = .ok declared := by
  have read := readVariables_toJson profile loaded.trimmed loaded.nonempty [] loaded.apart
  rw [readProfile, read]
  simp only [bind, Except.bind, List.nil_append, List.map_map]
  exact congrArg Except.ok (List.map_id'' (fun _ => rfl) declared)

theorem readProfiles_toJson {members : Entries Json} {profiles : Entries (List Variable)}
    (found : members.find? "envVars" = some (.object (profiles.map fun (profile, entries) =>
      (profile, .array (entries.map Variable.toJson)))))
    (loaded : ∀ profile ∈ profiles, Variable.AreLoaded profile.2) :
    readProfiles members = .ok profiles := by
  rw [readProfiles, sectionField_of_find? found]
  simp only [bind, Except.bind]
  apply Outcome.mapM_map_eq_ok
  intro profile inProfiles
  simp only [readProfile_toJson _ (loaded profile inProfiles)]
  rfl

theorem readThinkTime_toJson (thinkTime : ThinkTime) :
    ∃ fields, thinkTime.toJson = .object fields ∧ readThinkTime fields = .ok thinkTime := by
  refine ⟨_, rfl, ?_⟩
  have modeRead (members : Entries Json)
      (found : members.find? "mode" = some (.string thinkTime.mode.name)) :
      choiceField PauseMode.all PauseMode.name members "mode" .fixed = .ok thinkTime.mode :=
    choiceField_of_find? _ found (by cases thinkTime.mode <;> rfl)
  rw [readThinkTime, modeRead _ (by simp [Entries.find?])]
  simp [numberField, field?, Entries.find?, List.lookup_cons, bind, Except.bind, pure, Except.pure]

theorem readThresholds_toJson (thresholds : Thresholds) :
    ∃ fields, thresholds.toJson = .object fields ∧ readThresholds fields = .ok thresholds := by
  refine ⟨_, rfl, ?_⟩
  simp [readThresholds, flagField, wholeField, numberField, field?, Entries.find?,
    List.lookup_cons, bind, Except.bind, pure, Except.pure]

theorem readLoadKind_of_find? {members : Entries Json} {loadKind : LoadKind}
    (found : members.find? "loadType" = some (.string loadKind.name)) :
    readLoadKind members = .ok loadKind := by
  have chosen : choiceField LoadKind.all LoadKind.name members "loadType" .constant = .ok loadKind :=
    choiceField_of_find? _ found (by cases loadKind <;> rfl)
  rw [readLoadKind, textField_of_find? _ found]
  cases loadKind <;> exact chosen

structure ArePlanMembers (plan : Plan) (members : Entries Json) : Prop where
  name : members.find? "testName" = some (.string plan.name)
  baseUrl : members.find? "baseUrl" = some (.string plan.baseUrl)
  users : members.find? "vus" = some (.whole plan.users)
  duration : members.find? "duration" = some (.string plan.duration)
  loadKind : members.find? "loadType" = some (.string plan.loadKind.name)
  executionMode : members.find? "executionMode" = some (.string plan.executionMode.name)
  rampDuration : members.find? "rampDuration" = some (.string plan.rampDuration)
  targetUsers : members.find? "targetVUs" = some (.whole plan.targetUsers)
  stages : members.find? "stages" = some (.array (plan.stages.map Stage.toJson))
  scenarios : members.find? "scenarios" = some (.array (plan.scenarios.map Scenario.toJson))
  scenariosEnabled : members.find? "enableScenarios" = some (.boolean plan.scenariosEnabled)
  profiles : members.find? "envVars" = some (.object (plan.profiles.map fun (profile, entries) =>
    (profile, .array (entries.map Variable.toJson))))
  thinkTime : members.find? "thinkTime" = some plan.thinkTime.toJson
  requests : members.find? "apis" = some (.array (plan.requests.map Request.toJson))
  thresholds : members.find? "thresholds" = some plan.thresholds.toJson

theorem arePlanMembers_toJson (plan : Plan) :
    ∃ members, plan.toJson = .object members ∧ ArePlanMembers plan members := by
  refine ⟨_, rfl, ?_⟩
  constructor <;> simp [Entries.find?, List.lookup_cons]

theorem readPlan_toJson {plan : Plan} (loaded : plan.IsLoaded) :
    readPlan plan.toJson = .ok plan.saved := by
  obtain ⟨members, written, found⟩ := arePlanMembers_toJson plan
  obtain ⟨pauses, pausesWritten, thinkTimeRead⟩ := readThinkTime_toJson plan.thinkTime
  obtain ⟨bounds, boundsWritten, thresholdsRead⟩ := readThresholds_toJson plan.thresholds
  have pausesTaken := sectionField_of_find? (pausesWritten ▸ found.thinkTime)
  have boundsTaken := sectionField_of_find? (boundsWritten ▸ found.thresholds)
  have modeRead : choiceField ExecutionMode.all ExecutionMode.name members "executionMode"
      .sequential = .ok plan.executionMode :=
    choiceField_of_find? _ found.executionMode (by cases plan.executionMode <;> rfl)
  obtain ⟨stages, stagesTaken, stagesRead⟩ :=
    entriesField_of_find? found.stages fun stage _ => readStage_toJson stage
  obtain ⟨scenarios, scenariosTaken, scenariosRead⟩ :=
    entriesField_of_find? found.scenarios fun scenario _ => readScenario_toJson scenario
  obtain ⟨requests, requestsTaken, requestsRead⟩ :=
    entriesField_of_find? found.requests fun request _ => readRequest_toJson request
  rw [List.map_id'] at stagesRead scenariosRead
  have profilesThere : Entries.hasKey members "envVars" = true := by
    rw [Entries.hasKey, ← Entries.find?, found.profiles]
    rfl
  simp only [written, readPlan, readPlanFields, readLoadKind_of_find? found.loadKind, pausesTaken,
    boundsTaken, textField_of_find? _ found.name, textField_of_find? _ found.baseUrl,
    wholeField_of_find? _ found.users, textField_of_find? _ found.duration, modeRead,
    textField_of_find? _ found.rampDuration, wholeField_of_find? _ found.targetUsers, stagesTaken,
    stagesRead, scenariosTaken, scenariosRead, flagField_of_find? _ found.scenariosEnabled,
    thinkTimeRead, requestsTaken, requestsRead, thresholdsRead, profilesThere, ↓reduceIte,
    readProfiles_toJson found.profiles loaded.profileVariables, bind, Except.bind, loaded.baseUrl]
  rfl

end Document

section Readable

open Json (IsReadable ItemsReadable MembersReadable itemsReadable_map membersReadable_append)

variable {reader : Json.Reader} {depth : Nat}

theorem Header.toJson_isReadable (header : Header) (room : depth < reader.nestingLimit) :
    IsReadable reader depth header.toJson :=
  ⟨room, by simp, trivial, trivial, trivial⟩

theorem Check.toJson_isReadable (check : Check) (room : depth < reader.nestingLimit) :
    IsReadable reader depth check.toJson :=
  ⟨room, by simp, trivial, trivial, trivial⟩

theorem FormField.toJson_isReadable (field : FormField) (room : depth < reader.nestingLimit) :
    IsReadable reader depth field.toJson :=
  ⟨room, by simp, trivial, trivial, trivial, trivial⟩

theorem Form.toJson_isReadable (form : Form) (room : depth + 2 < reader.nestingLimit) :
    IsReadable reader depth form.toJson := by
  have fields : ItemsReadable reader (depth + 2) (form.fields.map FormField.toJson) :=
    itemsReadable_map fun field _ => field.toJson_isReadable room
  exact ⟨by omega, by simp, ⟨by omega, fields⟩, trivial, trivial⟩

theorem Request.toJson_isReadable {request : Request} (canonical : request.thinkTime.IsCanonical)
    (room : depth + 3 < reader.nestingLimit) : IsReadable reader depth request.toJson := by
  have headers : ItemsReadable reader (depth + 2) (request.headers.map Header.toJson) :=
    itemsReadable_map fun header _ => header.toJson_isReadable (by omega)
  have checks : ItemsReadable reader (depth + 2) (request.checks.map Check.toJson) :=
    itemsReadable_map fun check _ => check.toJson_isReadable (by omega)
  have extraction : IsReadable reader (depth + 1) request.extraction.toJson :=
    ⟨by omega, by simp, trivial, trivial, trivial, trivial⟩
  rw [Request.toJson]
  refine ⟨by omega, ?_, ?_⟩
  · by_cases bearer : request.authKind = .bearer <;> cases request.credentials <;>
      cases request.form <;> simp [bearer]
  · refine membersReadable_append (membersReadable_append (membersReadable_append
      ⟨trivial, trivial, trivial, trivial, canonical, trivial, ⟨by omega, headers⟩,
        ⟨by omega, checks⟩, extraction, trivial⟩ ?_) ?_) ?_
    · split
      · exact ⟨trivial, trivial⟩
      · trivial
    · split
      · next credentials _ => exact ⟨⟨by omega, by simp, trivial, trivial, trivial⟩, trivial⟩
      · trivial
    · split
      · next form _ => exact ⟨form.toJson_isReadable (by omega), trivial⟩
      · trivial

theorem Stage.toJson_isReadable {stage : Stage} (fits : LongNumber.fits stage.target = true)
    (room : depth < reader.nestingLimit) : IsReadable reader depth stage.toJson :=
  ⟨room, by simp, trivial, Json.isReadable_whole reader _ fits, trivial⟩

theorem Scenario.toJson_isReadable {scenario : Scenario}
    (fits : LongNumber.fits scenario.users = true) (room : depth < reader.nestingLimit) :
    IsReadable reader depth scenario.toJson :=
  ⟨room, by simp, trivial, trivial, trivial, Json.isReadable_whole reader _ fits, trivial, trivial, trivial⟩

theorem Variable.toJson_isReadable (entry : Variable) (room : depth < reader.nestingLimit) :
    IsReadable reader depth entry.toJson :=
  ⟨room, by simp, trivial, trivial, trivial⟩

theorem ThinkTime.toJson_isReadable {thinkTime : ThinkTime} (loaded : thinkTime.IsLoaded)
    (room : depth < reader.nestingLimit) : IsReadable reader depth thinkTime.toJson :=
  ⟨room, by simp, trivial, loaded.fixed, loaded.least, loaded.most, trivial⟩

theorem Thresholds.toJson_isReadable {thresholds : Thresholds} (loaded : thresholds.IsLoaded)
    (room : depth < reader.nestingLimit) : IsReadable reader depth thresholds.toJson :=
  ⟨room, by simp, trivial, Json.isReadable_whole reader _ loaded.p95, Json.isReadable_whole reader _ loaded.p99,
    loaded.errorRate, trivial⟩

theorem Plan.toJson_isReadable {plan : Plan} (loaded : plan.IsLoaded) :
    IsReadable reader 0 plan.toJson := by
  have roomy := reader.roomy
  have stages : ItemsReadable reader 2 (plan.stages.map Stage.toJson) :=
    itemsReadable_map fun stage found => Stage.toJson_isReadable (loaded.stages stage found) (by omega)
  have scenarios : ItemsReadable reader 2 (plan.scenarios.map Scenario.toJson) :=
    itemsReadable_map fun scenario found =>
      Scenario.toJson_isReadable (loaded.scenarios scenario found) (by omega)
  have requests : ItemsReadable reader 2 (plan.requests.map Request.toJson) :=
    itemsReadable_map fun request found =>
      Request.toJson_isReadable (loaded.requests request found) (by omega)
  have profiles : IsReadable reader 1 (.object (plan.profiles.map fun (profile, entries) =>
      (profile, .array (entries.map Variable.toJson)))) := by
    refine ⟨by omega, ?_, Json.membersReadable_of_forall ?_⟩
    · rw [List.map_map]
      exact loaded.profiles
    · rw [List.forall_mem_map]
      intro profile _
      exact ⟨by omega, itemsReadable_map fun entry _ => entry.toJson_isReadable (by omega)⟩
  rw [Plan.toJson]
  have users := Json.isReadable_whole reader 1 loaded.users
  have targetUsers := Json.isReadable_whole reader 1 loaded.targetUsers
  exact ⟨by omega, by simp, trivial, trivial, users, trivial, trivial, trivial, trivial,
    targetUsers, ⟨by omega, stages⟩, ⟨by omega, scenarios⟩, trivial, profiles,
    ThinkTime.toJson_isReadable loaded.thinkTime (by omega), ⟨by omega, requests⟩,
    Thresholds.toJson_isReadable loaded.thresholds (by omega), trivial⟩

end Readable

/-- The document of a loaded plan gives back the plan as its document tells it. -/
theorem Plan.load_save (reader : Json.Reader) {plan : Plan} (loaded : plan.IsLoaded) (indentation : Nat) :
    Plan.load reader (plan.save indentation) = .ok plan.saved := by
  rw [Plan.load, Plan.save, Json.parse_render _ (Plan.toJson_isReadable loaded)]
  exact Document.readPlan_toJson loaded

end LoadScript
