import LoadScript.Proofs.Compile.Dispatch
import LoadScript.Proofs.Compile.Selectors

/-!
The entry points of a script are those that its options name: a function for each scenario, in the order of
the scenarios, or the default function where nothing is scheduled.
-/

namespace LoadScript.Compile

open Script

theorem mapM_eq_some_filterMap {α β : Type} {find : α → Option β} {keys : List α}
    (found : ∀ key ∈ keys, ∃ value, find key = some value) :
    keys.mapM find = some (keys.filterMap find) := by
  induction keys with
  | nil => rfl
  | cons key rest ih =>
      obtain ⟨value, here⟩ := found key List.mem_cons_self
      rw [List.mapM_cons, here, ih fun other member => found other (List.mem_cons_of_mem _ member),
        List.filterMap_cons_some here]
      rfl

namespace Job

theorem render_scenarioEntry (job : Job) (scenario : Scenario) :
    some (render standardUnit 1 (job.scenarioEntry scenario).body) = job.scenarioText? scenario := by
  -- Positions out of range are left out of the selection, so that no lookup fails.
  have found : ∀ index ∈ (select scenario.selector job.plan.requests.length).value,
      ∃ text, (job.requestTexts 1)[index]? = some text := by
    intro index selected
    have bound : index < (job.requestTexts 1).length := by
      simpa [requestTexts] using select_lt _ _ index selected
    exact ⟨_, List.getElem?_eq_getElem bound⟩
  rw [scenarioText?, mapM_eq_some_filterMap found, scenarioEntry, render_blocks, selectedRequests,
    List.map_filterMap, requestTexts_eq]
  simp only [List.getElem?_map]
  rfl

/-! Options. -/

theorem options_value (plan : Plan) :
    (Compile.options plan).value =
      .object ((loadShape plan).value.options ++ thresholdOptions plan.thresholds) false false := rfl

theorem thresholdOptions_keys (thresholds : Thresholds) :
    ∀ entry ∈ thresholdOptions thresholds, entry.1 ≠ "scenarios" := by
  rw [thresholdOptions]
  split <;> simp

theorem loadShape_single {plan : Plan} (single : plan.usesScenarios = false) :
    ∀ entry ∈ (loadShape plan).value.options, entry.1 ≠ "scenarios" := by
  rw [loadShape, if_neg (by simp [single])]
  repeat' split
  all_goals simp [LoadShape.options, LoadShape.spike]

theorem members_scenarios_single {plan : Plan} (single : plan.usesScenarios = false) :
    (Compile.options plan).value.members "scenarios" = [] := by
  rw [options_value, Expr.members, List.map_eq_nil_iff, List.filter_eq_nil_iff]
  intro entry member
  rw [decide_eq_true_eq]
  rcases List.mem_append.mp member with shape | threshold
  · exact loadShape_single single entry shape
  · exact thresholdOptions_keys plan.thresholds entry threshold

theorem members_scenarios_scheduled {plan : Plan} (uses : plan.usesScenarios = true) :
    (Compile.options plan).value.members "scenarios" =
      [.object (plan.scenarios.map fun scenario => (scenario.name, scenarioOption scenario)) true false] := by
  have notLimited : (thresholdOptions plan.thresholds).filter (fun entry => entry.1 = "scenarios") = [] := by
    rw [List.filter_eq_nil_iff]
    simpa using thresholdOptions_keys plan.thresholds
  rw [options_value, loadShape, if_pos uses, Expr.members, List.filter_append, notLimited]
  rfl

theorem members_exec (scenario : Scenario) :
    (scenarioOption scenario).members "exec" = [.string scenario.functionName] := by
  rw [scenarioOption]
  split <;> rfl

/-! Exports. -/

theorem exports_scheduled {job : Job} (uses : job.plan.usesScenarios = true) :
    namedExports job.program.value = job.plan.scenarios.map job.scenarioEntry ∧
      defaultExports job.program.value = [] := by
  have declared := declaredFunctions_program job
  rw [if_pos uses] at declared
  rw [namedExports, defaultExports, declared, List.filter_eq_self, List.filter_eq_nil_iff]
  constructor
  · intro function member
    obtain ⟨scenario, _, rfl⟩ := List.mem_map.mp member
    rfl
  · intro function member
    obtain ⟨scenario, _, rfl⟩ := List.mem_map.mp member
    exact Bool.false_ne_true

theorem helpers_internal (job : Job) :
    ∀ function ∈ job.helpers, function.exported = false ∧ function.isDefault = false := by
  intro function member
  rw [helpers] at member
  split at member
  · obtain ⟨index, _, rfl⟩ := List.mem_mapIdx.mp member
    exact ⟨rfl, rfl⟩
  · cases member

theorem exports_single {job : Job} (single : job.plan.usesScenarios = false) :
    namedExports job.program.value = [] ∧ defaultExports job.program.value = [job.entry] := by
  have declared := declaredFunctions_program job
  rw [if_neg (by simp [single])] at declared
  have unnamed : job.helpers.filter (fun function => function.exported && !function.isDefault) = [] := by
    rw [List.filter_eq_nil_iff]
    intro function member
    simp [helpers_internal job function member]
  have others : job.helpers.filter Function.isDefault = [] := by
    rw [List.filter_eq_nil_iff]
    intro function member
    simp [helpers_internal job function member]
  rw [namedExports, defaultExports, declared, List.filter_append, List.filter_append, unnamed, others]
  exact ⟨rfl, rfl⟩

/-- The options of a script schedule its exported functions. With scenarios in use, the options have an
entry for each scenario, the function that it executes is the exported function in the same place, and this
function sends the requests that the scenario selects. Without, nothing is scheduled and there is a default
function alone. -/
theorem options_schedule_exports (job : Job) :
    let program := job.program.value
    let exports := namedExports program
    job.text.value =
        paragraphs (render standardUnit 0 job.preamble :: (declaredFunctions program).map Function.text) ∧
      ∃ options, exportedValues "options" program = [options] ∧
        if job.plan.usesScenarios then
          (∃ schedule, options.members "scenarios" = [.object schedule true false] ∧
            schedule.map Prod.fst = job.plan.scenarios.map Scenario.name ∧
            schedule.map (fun entry => entry.2.members "exec") =
              exports.map fun function => [.string function.name]) ∧
          (exports.map fun function => some (render standardUnit 1 function.body)) =
            job.plan.scenarios.map job.scenarioText? ∧
          defaultExports program = []
        else
          options.members "scenarios" = [] ∧ exports = [] ∧
            ∃ entry, defaultExports program = [entry] := by
  refine ⟨text_eq_paragraphs job, _, exportedValues_program job, ?_⟩
  split
  · next uses =>
      obtain ⟨exports, noDefault⟩ := exports_scheduled uses
      rw [exports]
      refine ⟨⟨_, members_scenarios_scheduled uses, ?_, ?_⟩, ?_, noDefault⟩
      · rw [List.map_map]
        rfl
      · rw [List.map_map, List.map_map]
        exact List.map_congr_left fun scenario _ => members_exec scenario
      · rw [List.map_map]
        exact List.map_congr_left fun scenario _ => render_scenarioEntry job scenario
  · next single =>
      rw [Bool.not_eq_true] at single
      obtain ⟨noNamed, default⟩ := exports_single single
      exact ⟨members_scenarios_single single, noNamed, job.entry, default⟩

end Job

end LoadScript.Compile
