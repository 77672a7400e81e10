import LoadScript.Proofs.Plan.Fields
import LoadScript.Proofs.Text.Trimming

/-!
What holds of every plan that is loaded.
-/

namespace LoadScript

structure Variable.AreLoaded (declared : List Variable) : Prop where
  trimmed : ∀ entry ∈ declared, Text.trim entry.key = entry.key
  nonempty : ∀ entry ∈ declared, entry.key ≠ ""
  apart : (declared.map Variable.key).Nodup

structure ThinkTime.IsLoaded (thinkTime : ThinkTime) : Prop where
  fixed : thinkTime.fixed.IsCanonical
  least : thinkTime.least.IsCanonical
  most : thinkTime.most.IsCanonical

structure Thresholds.IsLoaded (thresholds : Thresholds) : Prop where
  p95 : LongNumber.fits thresholds.p95 = true
  p99 : LongNumber.fits thresholds.p99 = true
  errorRate : thresholds.errorRate.IsCanonical

structure Plan.IsLoaded (plan : Plan) : Prop where
  baseUrl : Text.trim plan.baseUrl = plan.baseUrl
  users : LongNumber.fits plan.users = true
  targetUsers : LongNumber.fits plan.targetUsers = true
  stages : ∀ stage ∈ plan.stages, LongNumber.fits stage.target = true
  scenarios : ∀ scenario ∈ plan.scenarios, LongNumber.fits scenario.users = true
  profiles : (plan.profiles.map Prod.fst).Nodup
  profileVariables : ∀ profile ∈ plan.profiles, Variable.AreLoaded profile.2
  thinkTime : plan.thinkTime.IsLoaded
  requests : ∀ request ∈ plan.requests, request.thinkTime.IsCanonical
  thresholds : plan.thresholds.IsLoaded

theorem LongNumber.fits_of_lt {number : Int} (small : number.natAbs < 10 ^ 4) :
    fits number = true := by
  have more {limit : Nat} (above : 4 ≤ limit) : 10 ^ 4 ≤ Nat.pow 10 limit :=
    Nat.pow_le_pow_right (by decide) above
  exact decide_eq_true (Nat.lt_of_lt_of_le small (more (by decide)))

namespace Document

open Outcome (bind_eq_ok pure_eq_ok)

theorem readStage_fits {members : Entries Json} {stage : Stage} (sound : IsSound members)
    (read : readStage members = .ok stage) : LongNumber.fits stage.target = true := by
  simp only [readStage, bind_eq_ok, pure_eq_ok] at read
  obtain ⟨duration, -, target, targetRead, rfl⟩ := read
  exact wholeField_fits sound (LongNumber.fits_of_lt (by decide)) targetRead

theorem readScenario_fits {members : Entries Json} {scenario : Scenario} (sound : IsSound members)
    (read : readScenario members = .ok scenario) : LongNumber.fits scenario.users = true := by
  simp only [readScenario, bind_eq_ok, pure_eq_ok] at read
  obtain ⟨name, -, executor, -, startTime, -, users, usersRead, duration, -, selector, -, rfl⟩ := read
  exact wholeField_fits sound (LongNumber.fits_of_lt (by decide)) usersRead

theorem readRequest_isCanonical {members : Entries Json} {request : Request}
    (sound : IsSound members) (read : readRequest members = .ok request) :
    request.thinkTime.IsCanonical := by
  simp only [readRequest, bind_eq_ok, pure_eq_ok] at read
  obtain ⟨method, -, part, -, name, -, url, -, body, -, thinkTime, thinkTimeRead, authKind, -,
    bearerToken, -, headerEntries, -, headers, -, checkEntries, -, checks, -, extraction, -,
    credentials, -, form, -, rfl⟩ := read
  exact numberField_isCanonical sound (Double.isCanonical_zero false) thinkTimeRead

theorem readThinkTime_isLoaded {members : Entries Json} {thinkTime : ThinkTime}
    (sound : IsSound members) (read : readThinkTime members = .ok thinkTime) :
    thinkTime.IsLoaded := by
  simp only [readThinkTime, bind_eq_ok, pure_eq_ok] at read
  obtain ⟨mode, -, fixed, fixedRead, least, leastRead, most, mostRead, rfl⟩ := read
  have one := Double.ofNat_isCanonical 1
  have five := Double.ofNat_isCanonical 5
  exact {
    fixed := numberField_isCanonical sound one fixedRead
    least := numberField_isCanonical sound one leastRead
    most := numberField_isCanonical sound five mostRead }

theorem readThresholds_isLoaded {members : Entries Json} {thresholds : Thresholds}
    (sound : IsSound members) (read : readThresholds members = .ok thresholds) :
    thresholds.IsLoaded := by
  simp only [readThresholds, bind_eq_ok, pure_eq_ok] at read
  obtain ⟨enabled, -, p95, p95Read, p99, p99Read, errorRate, errorRateRead, rfl⟩ := read
  have one := Double.ofNat_isCanonical 1
  exact {
    p95 := wholeField_fits sound (LongNumber.fits_of_lt (by decide)) p95Read
    p99 := wholeField_fits sound (LongNumber.fits_of_lt (by decide)) p99Read
    errorRate := numberField_isCanonical sound one errorRateRead }

structure AreKeyed (entries : Entries String) : Prop where
  trimmed : ∀ key ∈ entries.map Prod.fst, Text.trim key = key
  nonempty : ∀ key ∈ entries.map Prod.fst, key ≠ ""
  apart : (entries.map Prod.fst).Nodup

theorem AreKeyed.put {entries : Entries String} (keyed : AreKeyed entries) {key : String}
    (trimmed : Text.trim key = key) (nonempty : key ≠ "") (value : String) :
    AreKeyed (entries.put key value) := by
  have known (other : String) (found : other ∈ (entries.put key value).map Prod.fst) :
      other ∈ entries.map Prod.fst ∨ other = key := by
    rw [Entries.keys_put] at found
    split at found
    · exact .inl found
    · rwa [List.mem_append, List.mem_singleton] at found
  constructor
  · intro other found
    rcases known other found with before | rfl
    · exact keyed.trimmed other before
    · exact trimmed
  · intro other found
    rcases known other found with before | rfl
    · exact keyed.nonempty other before
    · exact nonempty
  · exact Entries.nodup_put keyed.apart value

theorem readVariable_areKeyed {profile : String} {before after : Entries String} {entry : Json}
    (keyed : AreKeyed before) (read : readVariable profile before entry = .ok after) :
    AreKeyed after := by
  rw [readVariable.eq_def] at read
  split at read
  · simp only [bind_eq_ok] at read
    obtain ⟨key, -, read⟩ := read
    split at read
    · rw [pure_eq_ok] at read
      rwa [← read]
    · next nonempty =>
        simp only [bind_eq_ok, pure_eq_ok] at read
        obtain ⟨value, -, rfl⟩ := read
        exact keyed.put (Text.trim_trim key) nonempty value
  · cases read

theorem readVariables_areKeyed {profile : String} {entries : List Json}
    {before after : Entries String} (keyed : AreKeyed before)
    (read : entries.foldlM (readVariable profile) before = .ok after) : AreKeyed after := by
  induction entries generalizing before with
  | nil =>
      rw [List.foldlM_nil, pure_eq_ok] at read
      rwa [← read]
  | cons entry rest ih =>
      rw [List.foldlM_cons, bind_eq_ok] at read
      obtain ⟨next, nextRead, read⟩ := read
      exact ih (readVariable_areKeyed keyed nextRead) read

theorem readProfile_areLoaded {profile : String} {entries : Json} {declared : List Variable}
    (read : readProfile profile entries = .ok declared) : Variable.AreLoaded declared := by
  rw [readProfile.eq_def] at read
  split at read
  · simp only [bind_eq_ok, pure_eq_ok] at read
    obtain ⟨merged, mergedRead, rfl⟩ := read
    have keyed := readVariables_areKeyed ⟨by simp, by simp, by simp⟩ mergedRead
    have keys : (merged.map fun entry => ({ key := entry.1, value := entry.2 } : Variable)).map
        Variable.key = merged.map Prod.fst := by
      rw [List.map_map]
      rfl
    constructor
    · intro entry found
      exact keyed.trimmed entry.key (keys ▸ List.mem_map_of_mem found)
    · intro entry found
      exact keyed.nonempty entry.key (keys ▸ List.mem_map_of_mem found)
    · rw [keys]
      exact keyed.apart
  · cases read

theorem readProfiles_names {entries : Entries Json} {profiles : Entries (List Variable)}
    (read : entries.mapM (fun (profile, entries) => do
      pure (profile, ← readProfile profile entries)) = .ok profiles) :
    profiles.map Prod.fst = entries.map Prod.fst := by
  induction entries generalizing profiles with
  | nil =>
      rw [List.mapM_nil, pure_eq_ok] at read
      rw [← read]
      rfl
  | cons entry rest ih =>
      simp only [List.mapM_cons, bind_eq_ok, pure_eq_ok] at read
      obtain ⟨first, ⟨loaded, -, rfl⟩, others, othersRead, rfl⟩ := read
      rw [List.map_cons, List.map_cons, ih othersRead]

theorem readProfiles_variables {members : Entries Json} {profiles : Entries (List Variable)}
    (read : readProfiles members = .ok profiles) :
    ∀ profile ∈ profiles, Variable.AreLoaded profile.2 := by
  rw [readProfiles, bind_eq_ok] at read
  obtain ⟨entries, -, read⟩ := read
  refine Outcome.forall_of_mapM ?_ read
  intro entry _ profile profileRead
  simp only [bind_eq_ok, pure_eq_ok] at profileRead
  obtain ⟨entries, variablesRead, rfl⟩ := profileRead
  exact readProfile_areLoaded variablesRead

theorem readProfiles_areLoaded {members : Entries Json} {profiles : Entries (List Variable)}
    (sound : IsSound members) (read : readProfiles members = .ok profiles) :
    (profiles.map Prod.fst).Nodup ∧ ∀ profile ∈ profiles, Variable.AreLoaded profile.2 := by
  refine ⟨?_, readProfiles_variables read⟩
  rw [readProfiles, bind_eq_ok] at read
  obtain ⟨entries, entriesRead, read⟩ := read
  rw [readProfiles_names read]
  exact (sectionField_isSound sound entriesRead).1

theorem default_areLoaded : ∀ profile ∈ ({} : Plan).profiles, Variable.AreLoaded profile.2 := by
  have loaded : Variable.AreLoaded [] := ⟨by simp, by simp, by simp⟩
  simp [loaded]

theorem readPlanFields_isLoaded {members : Entries Json} {plan : Plan} (sound : IsSound members)
    (read : readPlanFields members = .ok plan) : plan.IsLoaded := by
  simp only [readPlanFields, bind_eq_ok] at read
  obtain ⟨loadKind, -, pauses, pausesRead, bounds, boundsRead, name, -, baseUrl, -, users, usersRead,
    duration, -, executionMode, -, rampDuration, -, targetUsers, targetUsersRead, stageEntries,
    stageEntriesRead, stages, stagesRead, scenarioEntries, scenarioEntriesRead, scenarios,
    scenariosRead, scenariosEnabled, -, thinkTime, thinkTimeRead, requestEntries,
    requestEntriesRead, requests, requestsRead, thresholds, thresholdsRead, read⟩ := read
  obtain ⟨profiles, profilesLoaded, same⟩ : ∃ profiles : Entries (List Variable),
      ((profiles.map Prod.fst).Nodup ∧ ∀ profile ∈ profiles, Variable.AreLoaded profile.2) ∧
        (pure {
          name, baseUrl := Text.trim baseUrl, users, duration, loadKind, executionMode, stages,
          scenarios, scenariosEnabled, profiles, thinkTime, requests, thresholds, rampDuration,
          targetUsers } : Read Plan) = .ok plan := by
    split at read
    · obtain ⟨profiles, profilesRead, same⟩ := bind_eq_ok.mp read
      exact ⟨profiles, readProfiles_areLoaded sound profilesRead, same⟩
    · exact ⟨_, ⟨by decide, default_areLoaded⟩, read⟩
  rw [pure_eq_ok] at same
  subst same
  have stagesSound := entriesField_isSound sound stageEntriesRead
  have scenariosSound := entriesField_isSound sound scenarioEntriesRead
  have requestsSound := entriesField_isSound sound requestEntriesRead
  exact {
    baseUrl := Text.trim_trim baseUrl
    users := wholeField_fits sound (LongNumber.fits_of_lt (by decide)) usersRead
    targetUsers := wholeField_fits sound (LongNumber.fits_of_lt (by decide)) targetUsersRead
    stages := Outcome.forall_of_mapM
      (fun entry found stage stageRead => readStage_fits (stagesSound entry found) stageRead)
      stagesRead
    scenarios := Outcome.forall_of_mapM
      (fun entry found scenario scenarioRead =>
        readScenario_fits (scenariosSound entry found) scenarioRead) scenariosRead
    profiles := profilesLoaded.1
    profileVariables := profilesLoaded.2
    thinkTime := readThinkTime_isLoaded (sectionField_isSound sound pausesRead) thinkTimeRead
    requests := Outcome.forall_of_mapM
      (fun entry found request requestRead =>
        readRequest_isCanonical (requestsSound entry found) requestRead) requestsRead
    thresholds := readThresholds_isLoaded (sectionField_isSound sound boundsRead) thresholdsRead }

theorem readPlan_profiles {document : Json} {plan : Plan} (read : readPlan document = .ok plan) :
    ∃ members, document = .object members ∧
      (if Entries.hasKey members "envVars" then readProfiles members
        else pure ({} : Plan).profiles) = .ok plan.profiles := by
  rw [readPlan.eq_def] at read
  split at read
  · next members =>
      refine ⟨members, rfl, ?_⟩
      simp only [readPlanFields, bind_eq_ok] at read
      obtain ⟨_, -, _, -, _, -, _, -, _, -, _, -, _, -, _, -, _, -, _, -, _, -, _, -, _, -, _, -, _, -, _, -,
        _, -, _, -, _, -, read⟩ := read
      split at read
      · next given =>
          obtain ⟨profiles, profilesRead, same⟩ := bind_eq_ok.mp read
          cases same
          rw [if_pos given]
          exact profilesRead
      · next missing =>
          cases read
          rw [if_neg missing]
          rfl
  · cases read

theorem readPlan_variables {document : Json} {plan : Plan} (read : readPlan document = .ok plan) :
    ∀ profile ∈ plan.profiles, Variable.AreLoaded profile.2 := by
  obtain ⟨members, -, profilesRead⟩ := readPlan_profiles read
  split at profilesRead
  · exact readProfiles_variables profilesRead
  · rw [pure_eq_ok] at profilesRead
    exact profilesRead ▸ default_areLoaded

end Document

/-- Every plan that is loaded has trimmed keys and numbers that can be written. -/
theorem Plan.isLoaded_of_load {reader : Json.Reader} {text : String} {plan : Plan}
    (loaded : Plan.load reader text = .ok plan) :
    plan.IsLoaded := by
  rw [Plan.load, Outcome.bind_eq_ok] at loaded
  obtain ⟨document, parsed, read⟩ := loaded
  have readable : Json.IsReadable reader 0 document := by
    cases outcome : Json.parse reader text with
    | error fault =>
        rw [outcome] at parsed
        cases parsed
    | ok result =>
        rw [outcome] at parsed
        cases parsed
        exact Json.isReadable_of_parse outcome
  cases document with
  | object members =>
      exact Document.readPlanFields_isLoaded (Document.isSound_of_object readable) read
  | null => cases read
  | boolean value => cases read
  | whole value => cases read
  | real value => cases read
  | string value => cases read
  | array items => cases read

/-- The default plan is the one of the document without members. -/
theorem Plan.default_isLoaded : Plan.IsLoaded {} :=
  @Plan.isLoaded_of_load .standard "\x7b\x7d" {} (Outcome.eq_ok_of_toOption (by rfl))

end LoadScript
