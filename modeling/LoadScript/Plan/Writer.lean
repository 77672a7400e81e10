import LoadScript.Json.Printer
import LoadScript.Plan.Basic

/-!
Saving plans as documents. Every field is written, apart from those of a request that it does not have.
-/

namespace LoadScript

def Header.toJson (header : Header) : Json :=
  .object [("key", .string header.key), ("value", .string header.value)]

def Check.toJson (check : Check) : Json :=
  .object [("name", .string check.name), ("condition", .string check.condition)]

def Extraction.toJson (extraction : Extraction) : Json :=
  .object [
    ("enabled", .boolean extraction.enabled), ("path", .string extraction.path),
    ("varName", .string extraction.savedAs)]

def Credentials.toJson (credentials : Credentials) : Json :=
  .object [("username", .string credentials.user), ("password", .string credentials.password)]

def FormField.toJson (field : FormField) : Json :=
  .object [
    ("key", .string field.key), ("value", .string field.value), ("isFile", .boolean field.isFile)]

def Form.toJson (form : Form) : Json :=
  .object [
    ("entries", .array (form.fields.map FormField.toJson)), ("hasFile", .boolean form.hasFile)]

def Request.toJson (request : Request) : Json :=
  .object ([
    ("name", .string request.name),
    ("method", .string request.method.name),
    ("url", .string request.url),
    ("body", .string request.body),
    ("thinkTime", .real request.thinkTime),
    ("authType", .string request.authKind.name),
    ("headers", .array (request.headers.map Header.toJson)),
    ("checks", .array (request.checks.map Check.toJson)),
    ("extraction", request.extraction.toJson)] ++
    (if request.authKind = .bearer then [("bearerToken", .string request.bearerToken)] else []) ++
    (match request.credentials with
      | some credentials => [("basicAuth", credentials.toJson)]
      | none => []) ++
    match request.form with
    | some form => [("form", form.toJson)]
    | none => [])

def Stage.toJson (stage : Stage) : Json :=
  .object [("duration", .string stage.duration), ("target", .whole stage.target)]

def Scenario.toJson (scenario : Scenario) : Json :=
  .object [
    ("name", .string scenario.name),
    ("executor", .string scenario.executor.name),
    ("startTime", .string scenario.startTime),
    ("vus", .whole scenario.users),
    ("duration", .string scenario.duration),
    ("apis", .string scenario.selector)]

def Variable.toJson (entry : Variable) : Json :=
  .object [("key", .string entry.key), ("value", .string entry.value)]

def ThinkTime.toJson (thinkTime : ThinkTime) : Json :=
  .object [
    ("mode", .string thinkTime.mode.name), ("fixed", .real thinkTime.fixed),
    ("min", .real thinkTime.least), ("max", .real thinkTime.most)]

def Thresholds.toJson (thresholds : Thresholds) : Json :=
  .object [
    ("enabled", .boolean thresholds.enabled), ("p95", .whole thresholds.p95),
    ("p99", .whole thresholds.p99), ("errorRate", .real thresholds.errorRate)]

def Plan.toJson (plan : Plan) : Json :=
  .object [
    ("testName", .string plan.name),
    ("baseUrl", .string plan.baseUrl),
    ("vus", .whole plan.users),
    ("duration", .string plan.duration),
    ("loadType", .string plan.loadKind.name),
    ("executionMode", .string plan.executionMode.name),
    ("rampDuration", .string plan.rampDuration),
    ("targetVUs", .whole plan.targetUsers),
    ("stages", .array (plan.stages.map Stage.toJson)),
    ("scenarios", .array (plan.scenarios.map Scenario.toJson)),
    ("enableScenarios", .boolean plan.scenariosEnabled),
    ("envVars", .object (plan.profiles.map fun (profile, entries) =>
      (profile, .array (entries.map Variable.toJson)))),
    ("thinkTime", plan.thinkTime.toJson),
    ("apis", .array (plan.requests.map Request.toJson)),
    ("thresholds", plan.thresholds.toJson)]

def Plan.save (plan : Plan) (indentation : Nat) : String :=
  plan.toJson.render (.indented indentation)

def Request.save (request : Request) (indentation : Nat) : String :=
  request.toJson.render (.indented indentation)

end LoadScript
