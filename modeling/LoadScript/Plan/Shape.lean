import LoadScript.Plan.Basic
import LoadScript.Plan.Field
import LoadScript.Text.Case

/-!
The shapes of documents: which fields a plan is told in, and which values each of them takes. A field may
always be missing or null.
-/

namespace LoadScript.Document

structure Shape where
  Accepts : Json → Prop
  known : Json → Json := id

def HasShape (shape : Shape) (members : Entries Json) (key : String) : Prop :=
  ∀ value, field? members key = some value → shape.Accepts value

def Conforms (fields : Entries Shape) (members : Entries Json) : Prop :=
  ∀ field ∈ fields, HasShape field.2 members field.1

def knownMembers (fields : Entries Shape) (members : Entries Json) : Entries Json :=
  members.filterMap fun (key, value) =>
    (fields.find? key).map fun shape => (key, shape.known value)

namespace Shape

def text : Shape where
  Accepts value := ∃ text, value = .string text

def flag : Shape where
  Accepts value := ∃ flag, value = .boolean flag

def whole : Shape where
  Accepts value := ∃ number, value = .whole number

def number : Shape where
  Accepts value :=
    (∃ number, value = .real number) ∨
      ∃ number, value = .whole number ∧
        number.natAbs < Double.twoTo 1024 - Double.twoTo 970

def named (isName : String → Prop) : Shape where
  Accepts value := ∃ name, value = .string name ∧ isName name

def choice (names : List String) : Shape := named (· ∈ names)

def method : Shape := named fun name => Text.upper name ∈ Method.all.map Method.name

def loadKind : Shape :=
  choice ("ramping-up" :: "ramping-down" :: LoadKind.all.map LoadKind.name)

def object (fields : Entries Shape) : Shape where
  Accepts value := ∃ members, value = .object members ∧ Conforms fields members
  known
    | .object members => .object (knownMembers fields members)
    | other => other

def optional (fields : Entries Shape) : Shape where
  Accepts value := ∀ members, value = .object members → Conforms fields members
  known
    | .object members => .object (knownMembers fields members)
    | _ => .null

def list (shape : Shape) : Shape where
  Accepts value := ∃ items, value = .array items ∧ ∀ item ∈ items, shape.Accepts item
  known
    | .array items => .array (items.map shape.known)
    | other => other

def table (shape : Shape) : Shape where
  Accepts value := ∃ members, value = .object members ∧ ∀ member ∈ members, shape.Accepts member.2
  known
    | .object members => .object (members.map fun (key, value) => (key, shape.known value))
    | other => other

def variableFields : Entries Shape := [("key", text), ("value", text)]

def variableEntry : Shape where
  Accepts value := ∃ members, value = .object members ∧ HasShape text members "key" ∧
    ∀ key, field? members "key" = some (.string key) → Text.trim key ≠ "" →
      HasShape text members "value"
  known := (object variableFields).known

end Shape

def headerFields : Entries Shape := [("key", .text), ("value", .text)]

def checkFields : Entries Shape := [("name", .text), ("condition", .text)]

def extractionFields : Entries Shape := [("enabled", .flag), ("path", .text), ("varName", .text)]

def credentialsFields : Entries Shape := [("username", .text), ("password", .text)]

def formFieldFields : Entries Shape := [("key", .text), ("value", .text), ("isFile", .flag)]

def formFields : Entries Shape := [("entries", .list (.object formFieldFields)), ("hasFile", .flag)]

def requestFields : Entries Shape :=
  [("method", .method), ("name", .text), ("url", .text), ("body", .text), ("thinkTime", .number),
    ("authType", .choice (AuthKind.all.map AuthKind.name)), ("bearerToken", .text),
    ("headers", .list (.object headerFields)), ("checks", .list (.object checkFields)),
    ("extraction", .object extractionFields), ("basicAuth", .optional credentialsFields),
    ("form", .optional formFields)]

def stageFields : Entries Shape := [("duration", .text), ("target", .whole)]

def scenarioFields : Entries Shape :=
  [("name", .text), ("executor", .choice (Executor.all.map Executor.name)), ("startTime", .text),
    ("vus", .whole), ("duration", .text), ("apis", .text)]

def thinkTimeFields : Entries Shape :=
  [("mode", .choice (PauseMode.all.map PauseMode.name)), ("fixed", .number), ("min", .number),
    ("max", .number)]

def thresholdsFields : Entries Shape :=
  [("enabled", .flag), ("p95", .whole), ("p99", .whole), ("errorRate", .number)]

def planFields : Entries Shape :=
  [("loadType", .loadKind), ("testName", .text), ("baseUrl", .text), ("vus", .whole),
    ("duration", .text), ("executionMode", .choice (ExecutionMode.all.map ExecutionMode.name)),
    ("rampDuration", .text), ("targetVUs", .whole), ("stages", .list (.object stageFields)),
    ("scenarios", .list (.object scenarioFields)), ("enableScenarios", .flag),
    ("thinkTime", .object thinkTimeFields), ("apis", .list (.object requestFields)),
    ("thresholds", .object thresholdsFields), ("envVars", .table (.list .variableEntry))]

end LoadScript.Document
