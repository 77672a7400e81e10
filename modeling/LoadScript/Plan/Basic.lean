import LoadScript.Entries
import LoadScript.Plan.Request
import LoadScript.Text.Blank
import LoadScript.Text.Quoted

/-!
Load test plans: the shape of the load, the scenarios, the environments and the requests.
-/

namespace LoadScript

inductive LoadKind where
  | constant
  | stages
  | rampUp
  | rampDown
  | spike
  | scenarioBased
deriving DecidableEq, Repr

namespace LoadKind

def all : List LoadKind := [.constant, .stages, .rampUp, .rampDown, .spike, .scenarioBased]

def name : LoadKind → String
  | .constant => "constant"
  | .stages => "stages"
  | .rampUp => "ramp-up"
  | .rampDown => "ramp-down"
  | .spike => "spike"
  | .scenarioBased => "scenario-based"

end LoadKind

inductive ExecutionMode where
  | sequential
  | parallel
  | random
deriving DecidableEq, Repr

namespace ExecutionMode

def all : List ExecutionMode := [.sequential, .parallel, .random]

def name : ExecutionMode → String
  | .sequential => "sequential"
  | .parallel => "parallel"
  | .random => "random"

end ExecutionMode

inductive Executor where
  | rampingUsers
  | constantUsers
  | iterationsPerUser
  | sharedIterations
deriving DecidableEq, Repr

namespace Executor

def all : List Executor := [.rampingUsers, .constantUsers, .iterationsPerUser, .sharedIterations]

def name : Executor → String
  | .rampingUsers => "ramping-vus"
  | .constantUsers => "constant-vus"
  | .iterationsPerUser => "per-vu-iterations"
  | .sharedIterations => "shared-iterations"

end Executor

inductive PauseMode where
  | fixed
  | random
  | perRequest
deriving DecidableEq, Repr

namespace PauseMode

def all : List PauseMode := [.fixed, .random, .perRequest]

def name : PauseMode → String
  | .fixed => "fixed"
  | .random => "random"
  | .perRequest => "per-api"

end PauseMode

structure Variable where
  key : String
  value : String := ""
deriving DecidableEq, Repr

structure Stage where
  duration : String := "30s"
  target : Int := 10
deriving DecidableEq, Repr

structure Scenario where
  name : String := "Scenario"
  executor : Executor := .rampingUsers
  startTime : String := "0s"
  users : Int := 10
  duration : String := "30s"
  selector : String := ""
deriving DecidableEq, Repr

def Scenario.functionName (scenario : Scenario) : String :=
  String.intercalate "_" (Text.words scenario.name)

structure ThinkTime where
  mode : PauseMode := .fixed
  fixed : Double := .ofNat 1
  least : Double := .ofNat 1
  most : Double := .ofNat 5
deriving DecidableEq, Repr

structure Thresholds where
  enabled : Bool := true
  p95 : Int := 500
  p99 : Int := 1000
  errorRate : Double := .ofNat 1
deriving DecidableEq, Repr

structure Plan where
  name : String := "Performance Test"
  baseUrl : String := ""
  users : Int := 10
  duration : String := "30s"
  loadKind : LoadKind := .constant
  executionMode : ExecutionMode := .sequential
  stages : List Stage := []
  scenarios : List Scenario := []
  scenariosEnabled : Bool := false
  profiles : Entries (List Variable) := [("dev", []), ("staging", []), ("prod", [])]
  thinkTime : ThinkTime := {}
  requests : List Request := []
  thresholds : Thresholds := {}
  rampDuration : String := "1m"
  targetUsers : Int := 50
deriving DecidableEq, Repr

namespace Plan

def usesScenarios (plan : Plan) : Bool :=
  (plan.scenariosEnabled || plan.loadKind = .scenarioBased) && !plan.scenarios.isEmpty

def profileVariables (plan : Plan) (profile : String) : List Variable :=
  (plan.profiles.find? profile).getD []

def scenarioProblems (scenario : Scenario) : List String :=
  (if Text.isAllBlank scenario.name then ["Scenario name is required."] else []) ++
    if scenario.users < 1 then
      ["Scenario " ++ Text.quoted scenario.name ++ ": VUs must be at least 1."]
    else []

def problems (plan : Plan) : List String :=
  (if plan.requests.isEmpty then ["At least one API request must be added."] else []) ++
    (if plan.users < 1 then ["Virtual Users (VUs) must be defined and greater than 0."] else []) ++
    (if Text.isAllBlank plan.duration then ["Test Duration must be defined."] else []) ++
    if plan.usesScenarios then plan.scenarios.flatMap scenarioProblems else []

end Plan

end LoadScript
