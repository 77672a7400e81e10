import LoadScript.Log.Record
import LoadScript.Plan.Basic
import LoadScript.Script.Syntax
import LoadScript.Number.Length
import LoadScript.Number.Shortest

/-!
The options of the script: the shape of the load and the thresholds.
-/

namespace LoadScript.Compile

open Script

def optionsChannel : String := Log.channel "emit.options"

inductive LoadShape where
  | constant (users : Int) (duration : String)
  | staged (stages : List Stage)
  | scheduled (scenarios : List Scenario)
deriving DecidableEq, Repr

def iterations? (scenario : Scenario) : Option Int :=
  match scenario.executor with
  | .iterationsPerUser => some scenario.users
  | .sharedIterations => some (scenario.users * 10)
  | .rampingUsers | .constantUsers => none

def stageOption (stage : Stage) : Expr :=
  .object [("duration", .string stage.duration), ("target", .number (.whole stage.target))]
    false true

def scenarioOption (scenario : Scenario) : Expr :=
  let extent := match iterations? scenario with
    | some count => ("iterations", Expr.number (.whole count))
    | none => ("duration", .string scenario.duration)
  .object [
    ("executor", .string scenario.executor.name),
    ("startTime", .string scenario.startTime),
    ("vus", .number (.whole scenario.users)),
    extent,
    ("exec", .string scenario.functionName)] false false

namespace LoadShape

def options : LoadShape → List (String × Expr)
  | .constant users duration =>
      [("vus", .number (.whole users)), ("duration", .string duration)]
  | .staged stages => [("stages", .array (stages.map stageOption) false)]
  | .scheduled scenarios =>
      let entries := scenarios.map fun scenario => (scenario.name, scenarioOption scenario)
      [("scenarios", .object entries true false)]

def numbers : LoadShape → List Int
  | .constant users _ => [users]
  | .staged stages => stages.map Stage.target
  | .scheduled scenarios =>
      scenarios.flatMap fun scenario => scenario.users :: (iterations? scenario).toList

def describe : LoadShape → String
  | .constant users duration => "Constant: " ++ toString users ++ " VUs for " ++ duration
  | .staged stages =>
      "Stages: " ++ String.intercalate ", "
        (stages.map fun stage => toString stage.target ++ "@" ++ stage.duration)
  | .scheduled scenarios => "Scenarios: " ++ String.intercalate ", " (scenarios.map Scenario.name)

def spike (users peak : Int) : LoadShape :=
  .staged [⟨"10s", users⟩, ⟨"30s", peak⟩, ⟨"10s", users⟩]

end LoadShape

def loadShape (plan : Plan) : Logged LoadShape :=
  let constant := LoadShape.constant plan.users plan.duration
  let fallback := do
    Logged.record .warning optionsChannel ("Load type " ++ Text.quoted plan.loadKind.name ++
      " has nothing to schedule; using constant VUs")
    pure constant
  if plan.usesScenarios then pure (.scheduled plan.scenarios)
  else
    match plan.loadKind with
    | .constant => pure constant
    | .stages => if plan.stages.isEmpty then fallback else pure (.staged plan.stages)
    | .rampUp =>
        pure (.staged [⟨plan.rampDuration, plan.targetUsers⟩, ⟨plan.duration, plan.targetUsers⟩])
    | .rampDown => pure (.staged [⟨plan.duration, plan.users⟩, ⟨plan.rampDuration, 0⟩])
    | .spike => pure (.spike plan.users plan.targetUsers)
    | .scenarioBased => fallback

def rateText (percent : Double) : String :=
  let fraction := percent.divideBy 100
  match fraction.whole? with
  | some whole => toString whole
  | none => (fraction.roundTo 10).text

def thresholdOptions (thresholds : Thresholds) : List (String × Expr) :=
  if thresholds.enabled then
    let latency := Expr.array [
      .string ("p(95)<" ++ toString thresholds.p95),
      .string ("p(99)<" ++ toString thresholds.p99)] true
    let failures := Expr.array [.string ("rate<" ++ rateText thresholds.errorRate)] true
    [("thresholds",
      .object [("http_req_duration", latency), ("http_req_failed", failures)] false false)]
  else []

def thresholdNumbers (thresholds : Thresholds) : List Int :=
  if thresholds.enabled then [thresholds.p95, thresholds.p99] else []

def optionsAreWritable (plan : Plan) : Bool :=
  ((loadShape plan).value.numbers ++ thresholdNumbers plan.thresholds).all LongNumber.fits

def options (plan : Plan) : Logged Expr := do
  let shape ← loadShape plan
  Logged.record .debug optionsChannel ("Load shape: " ++ shape.describe)
  pure (.object (shape.options ++ thresholdOptions plan.thresholds) false false)

end LoadScript.Compile
