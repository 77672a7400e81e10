import LoadScript.Plan.Basic
import LoadScript.Plan.Field
import LoadScript.Text.Case

/-!
Loading plans from documents. The fields are read in a fixed order, and the first fault is reported.
-/

namespace LoadScript.Document

def readMethod (members : Entries Json) : Read Method := do
  let name := Text.upper (← textField members "method" Method.get.name)
  match Method.ofName? name with
  | some method => pure method
  | none => .error (.unsupportedMethod name)

def readHeader (members : Entries Json) : Read Header := do
  let key ← textField members "key" ""
  let value ← textField members "value" ""
  pure { key, value }

def readCheck (members : Entries Json) : Read Check := do
  let name ← textField members "name" ""
  let condition ← textField members "condition" ""
  pure { name, condition }

def readExtraction (members : Entries Json) : Read Extraction := do
  let enabled ← flagField members "enabled" false
  let path ← textField members "path" ""
  let savedAs ← textField members "varName" ""
  pure { enabled, path, savedAs }

def readCredentials : Option Json → Read (Option Credentials)
  | some (.object members) => do
      let user ← textField members "username" ""
      let password ← textField members "password" ""
      pure (some { user, password })
  | _ => pure none

def readFormField (members : Entries Json) : Read FormField := do
  let key ← textField members "key" ""
  let value ← textField members "value" ""
  let isFile ← flagField members "isFile" false
  pure { key, value, isFile }

def readForm : Option Json → Read (Option Form)
  | some (.object members) => do
      let fields ← (← entriesField members "entries").mapM readFormField
      let hasFile ← flagField members "hasFile" false
      pure (some { fields, hasFile })
  | _ => pure none

def readRequest (members : Entries Json) : Read Request := do
  let method ← readMethod members
  let extraction ← sectionField members "extraction"
  let name ← textField members "name" ""
  let url ← textField members "url" ""
  let body ← textField members "body" ""
  let thinkTime ← numberField members "thinkTime" .zero
  let authKind ← choiceField AuthKind.all AuthKind.name members "authType" .none
  let bearerToken ← textField members "bearerToken" ""
  let headers ← (← entriesField members "headers").mapM readHeader
  let checks ← (← entriesField members "checks").mapM readCheck
  let extraction ← readExtraction extraction
  let credentials ← readCredentials (members.find? "basicAuth")
  let form ← readForm (members.find? "form")
  pure {
    name, method, url, body, thinkTime, authKind, bearerToken, credentials, headers, extraction,
    checks, form }

def readVariable (profile : String) (before : Entries String) : Json → Read (Entries String)
  | .object members => do
      let key := Text.trim (← textField members "key" "")
      if key = "" then pure before
      else pure (before.put key (← textField members "value" ""))
  | _ => .error (.profileEntryNotObject profile)

def readProfile (profile : String) : Json → Read (List Variable)
  | .array entries => do
      let merged ← entries.foldlM (readVariable profile) []
      pure (merged.map fun (key, value) => { key, value })
  | _ => .error (.profileNotList profile)

def readProfiles (members : Entries Json) : Read (Entries (List Variable)) := do
  (← sectionField members "envVars").mapM fun (profile, entries) => do
    pure (profile, ← readProfile profile entries)

def readLoadKind (members : Entries Json) : Read LoadKind := do
  match ← textField members "loadType" LoadKind.constant.name with
  | "ramping-up" => pure .rampUp
  | "ramping-down" => pure .rampDown
  | _ => choiceField LoadKind.all LoadKind.name members "loadType" .constant

def readStage (members : Entries Json) : Read Stage := do
  let duration ← textField members "duration" "30s"
  let target ← wholeField members "target" 10
  pure { duration, target }

def readScenario (members : Entries Json) : Read Scenario := do
  let name ← textField members "name" "Scenario"
  let executor ← choiceField Executor.all Executor.name members "executor" .rampingUsers
  let startTime ← textField members "startTime" "0s"
  let users ← wholeField members "vus" 10
  let duration ← textField members "duration" "30s"
  let selector ← textField members "apis" ""
  pure { name, executor, startTime, users, duration, selector }

def readThinkTime (members : Entries Json) : Read ThinkTime := do
  let mode ← choiceField PauseMode.all PauseMode.name members "mode" .fixed
  let fixed ← numberField members "fixed" (.ofNat 1)
  let least ← numberField members "min" (.ofNat 1)
  let most ← numberField members "max" (.ofNat 5)
  pure { mode, fixed, least, most }

def readThresholds (members : Entries Json) : Read Thresholds := do
  let enabled ← flagField members "enabled" true
  let p95 ← wholeField members "p95" 500
  let p99 ← wholeField members "p99" 1000
  let errorRate ← numberField members "errorRate" (.ofNat 1)
  pure { enabled, p95, p99, errorRate }

def readPlanFields (members : Entries Json) : Read Plan := do
  let loadKind ← readLoadKind members
  let thinkTime ← sectionField members "thinkTime"
  let thresholds ← sectionField members "thresholds"
  let name ← textField members "testName" "Performance Test"
  let baseUrl ← textField members "baseUrl" ""
  let users ← wholeField members "vus" 10
  let duration ← textField members "duration" "30s"
  let executionMode ←
    choiceField ExecutionMode.all ExecutionMode.name members "executionMode" .sequential
  let rampDuration ← textField members "rampDuration" "1m"
  let targetUsers ← wholeField members "targetVUs" 50
  let stages ← (← entriesField members "stages").mapM readStage
  let scenarios ← (← entriesField members "scenarios").mapM readScenario
  let scenariosEnabled ← flagField members "enableScenarios" false
  let thinkTime ← readThinkTime thinkTime
  let requests ← (← entriesField members "apis").mapM readRequest
  let thresholds ← readThresholds thresholds
  let profiles ←
    if members.hasKey "envVars" then readProfiles members
    else pure ({} : Plan).profiles
  pure {
    name, baseUrl := Text.trim baseUrl, users, duration, loadKind, executionMode, stages, scenarios,
    scenariosEnabled, profiles, thinkTime, requests, thresholds, rampDuration, targetUsers }

def readPlan : Json → Read Plan
  | .object members => readPlanFields members
  | other => .error (.notObject other.kindName)

end LoadScript.Document

namespace LoadScript

def Plan.load (reader : Json.Reader) (text : String) : Except Document.LoadError Plan := do
  Document.readPlan (← (Json.parse reader text).mapError .ofReadError)

end LoadScript
