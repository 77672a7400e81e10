import LoadScript.Compile.Block
import LoadScript.Compile.Options
import LoadScript.Compile.Selector
import LoadScript.Log.Moment

/-!
The sections of a script, and the script made of them.
-/

namespace LoadScript.Compile

open Script

structure Job where
  plan : Plan
  profile : String := "dev"
  generatedAt : Moment
  scriptName : String := "script.js"

namespace Job

def profileVariables (job : Job) : List Variable := job.plan.profileVariables job.profile

def header (job : Job) : Logged (List Stmt) := do
  let opening := [
    Stmt.blockComment [
      job.plan.name, "Generated by k6forge", "Date: " ++ job.generatedAt.text] false,
    .blank]
  if job.plan.requests.isEmpty then
    Logged.record .warning assemblyChannel
      "No API requests configured; emitting an empty entry point"
    pure (opening ++ [
      .blockComment [
        "WARNING: No API requests configured!",
        "Add at least one API request to generate a useful k6 script."] true,
      .blank])
  else pure opening

def imports (job : Job) : List Stmt :=
  [.importFrom "k6/http" (some "http") [], .importFrom "k6" none ["check", "group", "sleep"]] ++
    (if job.plan.requests.any usesBasicAuth then
      [.importFrom "k6/encoding" (some "encoding") []]
    else []) ++ [.blank]

def shellQuoted (value : String) : String :=
  String.ofList ('"' :: value.toList.flatMap (fun character =>
    if character = '\\' || character = '"' then ['\\', character] else [character]) ++ ['"'])

def overrides (entries : List Variable) : String :=
  String.intercalate " " (entries.map fun entry =>
    "-e " ++ entry.key ++ "=" ++ shellQuoted entry.value)

def variableStmt (entry : Variable) : Stmt :=
  .constant entry.key
    (.binary "||" (.reference ("__ENV." ++ entry.key)) (.string entry.value))

def environment (job : Job) : List Stmt :=
  if job.profileVariables.isEmpty then []
  else
    [ .comment ("Environment Variables (Profile: " ++ job.profile ++ ")"),
      .comment ("Run with: k6 run " ++ job.scriptName ++ " " ++ overrides job.profileVariables),
      .blank] ++ job.profileVariables.map variableStmt ++ [.blank]

def baseUrl (job : Job) : Logged (List Stmt) :=
  let url := job.plan.baseUrl
  if url = "" || job.profileVariables.any (fun entry => entry.key = baseUrlName) then pure []
  else if (placeholders url).contains baseUrlName then do
    Logged.record .warning assemblyChannel
      ("Base URL " ++ Text.quoted url ++ " refers to BASE_URL but profile " ++
        Text.quoted job.profile ++ " does not define it")
    pure []
  else
    let trimmed := String.ofList (Text.dropEndWhile (· = '/') url.toList)
    pure [.constant baseUrlName (resolve trimmed), .blank]

def chainingStore (job : Job) : List Stmt :=
  if job.plan.requests.any fun request => request.extraction.enabled then
    [ .comment "Variables for request chaining",
      .declare false "let" chainStore (.raw (openBrace ++ closeBrace)),
      .blank]
  else []

def optionsSection (job : Job) : Logged (List Stmt) := do
  let value ← Compile.options job.plan
  pure [.declare true "const" "options" value, .blank]

def block (job : Job) (request : Request) : Logged Stmt :=
  requestBlock request job.plan.baseUrl job.plan.thinkTime

def blocks (job : Job) : List Request → Logged (List Stmt)
  | [] => pure []
  | request :: rest => do
      let first ← job.block request
      let others ← job.blocks rest
      pure (first :: .blank :: others)

def scenarioFunction (job : Job) (scenario : Scenario) : Logged Stmt := do
  let indices ← select scenario.selector job.plan.requests.length
  let body ← job.blocks (indices.filterMap fun index => job.plan.requests[index]?)
  pure (.function scenario.functionName true false body)

def functionsOf (job : Job) : List Scenario → Logged (List Stmt)
  | [] => pure []
  | scenario :: rest => do
      let first ← job.scenarioFunction scenario
      let others ← job.functionsOf rest
      pure (first :: .blank :: others)

def scenarioFunctions (job : Job) : Logged (List Stmt) :=
  job.functionsOf job.plan.scenarios

def helperName (index : Nat) : String := "api" ++ toString index

def helpersFrom (job : Job) (index : Nat) : List Request → Logged (List Stmt)
  | [] => pure []
  | request :: rest => do
      let body ← job.blocks [request]
      let others ← job.helpersFrom (index + 1) rest
      pure (.function (helperName index) false false body :: .blank :: others)

def parallelHelpers (job : Job) : Logged (List Stmt) :=
  job.helpersFrom 0 job.plan.requests

def pause (job : Job) : List Stmt :=
  let thinkTime := job.plan.thinkTime
  match thinkTime.mode with
  | .fixed => [.evaluate (.call "sleep" [.number (.real thinkTime.fixed)])]
  | .random =>
      let spread := (thinkTime.most.sub thinkTime.least).roundTo 10
      [.evaluate (.call "sleep" [
        .binary "+" (.number (.real thinkTime.least))
          (.binary "*" (.raw "Math.random()") (.number (.real spread)))])]
  | .perRequest => []

def casesFrom (job : Job) (index : Nat) : List Request → Logged (List Case)
  | [] => pure []
  | request :: rest => do
      let first ← job.block request
      let others ← job.casesFrom (index + 1) rest
      pure (.mk (.number (.whole index)) [first] :: others)

def entryBody (job : Job) : Logged (List Stmt) :=
  let requests := job.plan.requests
  if requests.isEmpty then pure [.comment "No APIs configured"]
  else
    match job.plan.executionMode with
    | .parallel =>
        pure (.comment "Parallel execution - all APIs called together" ::
          (List.range requests.length).map fun index => .evaluate (.call (helperName index) []))
    | .random => do
        let cases ← job.casesFrom 0 requests
        pure [
          .comment "Randomized execution - pick one API per iteration",
          .constant "apiIndex"
            (.raw ("Math.floor(Math.random() * " ++ toString requests.length ++ ")")),
          .switch (.reference "apiIndex") cases]
    | .sequential => job.blocks requests

def withPause (pause body : List Stmt) : List Stmt :=
  if pause.isEmpty then body
  else if (body.getLast?.map Stmt.isBlank).getD false then body ++ pause
  else body ++ .blank :: pause

def defaultFunction (job : Job) : Logged (List Stmt) := do
  let body ← job.entryBody
  pure [.function "default" true true (withPause job.pause body)]

def functions (job : Job) : Logged (List Stmt) := do
  if job.plan.usesScenarios then job.scenarioFunctions
  else
    let helpers ←
      if job.plan.executionMode = .parallel then job.parallelHelpers else pure []
    let entry ← job.defaultFunction
    pure (helpers ++ entry)

def program (job : Job) : Logged (List Stmt) := do
  if job.plan.scenariosEnabled && !job.plan.usesScenarios then
    Logged.record .warning assemblyChannel
      "Scenarios enabled but none defined; using the default entry point"
  let header ← job.header
  let baseUrl ← job.baseUrl
  let options ← job.optionsSection
  let functions ← job.functions
  pure (header ++ job.imports ++ job.environment ++ baseUrl ++ job.chainingStore ++ options ++
    functions)

def text (job : Job) : Logged String := do
  Logged.record .debug assemblyChannel
    ("Compiling " ++ Text.quoted job.plan.name ++ ": " ++ toString job.plan.requests.length ++
      " requests, profile " ++ Text.quoted job.profile)
  let program ← job.program
  pure (render standardUnit 0 program)

def script (job : Job) : Logged (Except LongNumber String) := do
  let text ← job.text
  pure (if optionsAreWritable job.plan then .ok text else .error .written)

end Job

end LoadScript.Compile
