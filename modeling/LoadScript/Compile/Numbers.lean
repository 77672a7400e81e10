import LoadScript.Plan.Basic

/-!
The numbers of a plan that its script shows.
-/

namespace LoadScript

inductive Plan.Shows (plan : Plan) : Int → Prop where
  | p95 (enabled : plan.thresholds.enabled = true) : plan.Shows plan.thresholds.p95
  | p99 (enabled : plan.thresholds.enabled = true) : plan.Shows plan.thresholds.p99
  | scenarioUsers {scenario : Scenario} (uses : plan.usesScenarios = true)
      (listed : scenario ∈ plan.scenarios) : plan.Shows scenario.users
  | sharedRuns {scenario : Scenario} (uses : plan.usesScenarios = true)
      (listed : scenario ∈ plan.scenarios) (shared : scenario.executor = .sharedIterations) :
      plan.Shows (scenario.users * 10)
  | users (single : plan.usesScenarios = false) (other : plan.loadKind ≠ .rampUp)
      (unstaged : plan.loadKind = .stages → plan.stages = []) : plan.Shows plan.users
  | targetUsers (single : plan.usesScenarios = false)
      (climbs : plan.loadKind = .rampUp ∨ plan.loadKind = .spike) : plan.Shows plan.targetUsers
  | stage {stage : Stage} (single : plan.usesScenarios = false) (staged : plan.loadKind = .stages)
      (listed : stage ∈ plan.stages) : plan.Shows stage.target

inductive Plan.Pauses (plan : Plan) : Double → Prop where
  | fixed (single : plan.usesScenarios = false) (mode : plan.thinkTime.mode = .fixed) :
      plan.Pauses plan.thinkTime.fixed
  | least (single : plan.usesScenarios = false) (mode : plan.thinkTime.mode = .random) :
      plan.Pauses plan.thinkTime.least
  | spread (single : plan.usesScenarios = false) (mode : plan.thinkTime.mode = .random) :
      plan.Pauses ((plan.thinkTime.most.sub plan.thinkTime.least).roundTo 10)
  | request {request : Request} (listed : request ∈ plan.requests)
      (mode : plan.thinkTime.mode = .perRequest) (positive : request.thinkTime.isPositive = true) :
      plan.Pauses request.thinkTime

end LoadScript
