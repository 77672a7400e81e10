import LoadScript.Compile.Numbers
import LoadScript.Proofs.Compile.EntryPoints
import LoadScript.Proofs.Plan.Loaded
import LoadScript.Proofs.Script.Loose

/-!
Every plan has a script, unless the script would show a number that is too long.
-/

namespace LoadScript.Compile

open Script

/-! Numbers in the options. -/

theorem loadShape_value (plan : Plan) :
    (loadShape plan).value =
      if plan.usesScenarios then .scheduled plan.scenarios
      else
        match plan.loadKind with
        | .constant | .scenarioBased => .constant plan.users plan.duration
        | .stages =>
            if plan.stages.isEmpty then .constant plan.users plan.duration else .staged plan.stages
        | .rampUp =>
            .staged [⟨plan.rampDuration, plan.targetUsers⟩, ⟨plan.duration, plan.targetUsers⟩]
        | .rampDown => .staged [⟨plan.duration, plan.users⟩, ⟨plan.rampDuration, 0⟩]
        | .spike => .spike plan.users plan.targetUsers := by
  rw [loadShape]
  split
  · rfl
  · cases plan.loadKind with
    | stages => cases plan.stages.isEmpty <;> rfl
    | constant | scenarioBased | rampUp | rampDown | spike => rfl

def shownNumbers (plan : Plan) : List Int :=
  (loadShape plan).value.numbers ++ thresholdNumbers plan.thresholds

theorem mem_shownNumbers_of_shows {plan : Plan} {number : Int} (shown : plan.Shows number) :
    number ∈ shownNumbers plan := by
  rw [shownNumbers, List.mem_append]
  cases shown with
  | p95 enabled => simp [thresholdNumbers, enabled]
  | p99 enabled => simp [thresholdNumbers, enabled]
  | @scenarioUsers scenario uses listed =>
      rw [loadShape_value, if_pos uses]
      exact .inl (List.mem_flatMap.mpr ⟨scenario, listed, List.mem_cons_self⟩)
  | @sharedRuns scenario uses listed shared =>
      rw [loadShape_value, if_pos uses]
      refine .inl (List.mem_flatMap.mpr ⟨scenario, listed, ?_⟩)
      simp [iterations?, shared]
  | users single other unstaged =>
      rw [loadShape_value, if_neg (by simp [single])]
      cases kind : plan.loadKind with
      | stages => simp [unstaged kind, LoadShape.numbers]
      | rampUp => exact absurd kind other
      | constant | scenarioBased => simp [LoadShape.numbers]
      | rampDown | spike => simp [LoadShape.numbers, LoadShape.spike]
  | targetUsers single climbs =>
      rw [loadShape_value, if_neg (by simp [single])]
      rcases climbs with kind | kind <;> simp [kind, LoadShape.numbers, LoadShape.spike]
  | @stage stage single staged listed =>
      have nonempty : plan.stages.isEmpty = false := by
        rw [List.isEmpty_eq_false_iff_exists_mem]
        exact ⟨stage, listed⟩
      rw [loadShape_value, if_neg (by simp [single])]
      simp only [staged, nonempty, LoadShape.numbers]
      exact .inl (List.mem_map_of_mem listed)

theorem shows_of_mem_scheduled {plan : Plan} {number : Int} (uses : plan.usesScenarios = true)
    (member : number ∈ (LoadShape.scheduled plan.scenarios).numbers) : plan.Shows number := by
  obtain ⟨scenario, listed, counted⟩ := List.mem_flatMap.mp member
  rcases List.mem_cons.mp counted with rfl | runs
  · exact .scenarioUsers uses listed
  · cases executor : scenario.executor with
    | iterationsPerUser =>
        simp only [iterations?, executor, Option.toList, List.mem_singleton] at runs
        exact runs ▸ .scenarioUsers uses listed
    | sharedIterations =>
        simp only [iterations?, executor, Option.toList, List.mem_singleton] at runs
        exact runs ▸ .sharedRuns uses listed executor
    | rampingUsers | constantUsers => simp [iterations?, executor] at runs

theorem shows_of_mem_thresholdNumbers {plan : Plan} {number : Int}
    (member : number ∈ thresholdNumbers plan.thresholds) : plan.Shows number := by
  rw [thresholdNumbers] at member
  split at member
  · next enabled =>
      simp only [List.mem_cons, List.not_mem_nil, or_false] at member
      rcases member with rfl | rfl
      · exact .p95 enabled
      · exact .p99 enabled
  · cases member

/-- Apart from what a plan shows there is only the zero at the end of a ramp down. -/
theorem shows_of_mem_shownNumbers {plan : Plan} {number : Int} (member : number ∈ shownNumbers plan) :
    plan.Shows number ∨ number = 0 := by
  rcases List.mem_append.mp member with shape | threshold
  · rw [loadShape_value] at shape
    split at shape
    · next uses => exact .inl (shows_of_mem_scheduled uses shape)
    · next single =>
        rw [Bool.not_eq_true] at single
        cases kind : plan.loadKind with
        | constant | scenarioBased =>
            simp only [kind, LoadShape.numbers, List.mem_singleton] at shape
            exact shape ▸ .inl (.users single (by simp [kind]) (by simp [kind]))
        | stages =>
            simp only [kind] at shape
            split at shape
            · next empty =>
                rw [LoadShape.numbers, List.mem_singleton] at shape
                exact shape ▸ .inl (.users single (by simp [kind])
                  fun _ => List.isEmpty_iff.mp empty)
            · obtain ⟨stage, listed, rfl⟩ := List.mem_map.mp shape
              exact .inl (.stage single kind listed)
        | rampUp =>
            simp only [kind, LoadShape.numbers, List.map_cons, List.map_nil, List.mem_cons,
              List.not_mem_nil, or_false, or_self] at shape
            exact shape ▸ .inl (.targetUsers single (.inl kind))
        | rampDown =>
            simp only [kind, LoadShape.numbers, List.map_cons, List.map_nil, List.mem_cons,
              List.not_mem_nil, or_false] at shape
            rcases shape with rfl | zero
            · exact .inl (.users single (by simp [kind]) (by simp [kind]))
            · exact .inr zero
        | spike =>
            simp only [kind, LoadShape.numbers, LoadShape.spike, List.map_cons, List.map_nil,
              List.mem_cons, List.not_mem_nil, or_false] at shape
            rcases shape with rfl | rfl | rfl
            · exact .inl (.users single (by simp [kind]) (by simp [kind]))
            · exact .inl (.targetUsers single (.inr kind))
            · exact .inl (.users single (by simp [kind]) (by simp [kind]))
  · exact .inl (shows_of_mem_thresholdNumbers threshold)

theorem optionsAreWritable_iff (plan : Plan) :
    optionsAreWritable plan = true ↔ ∀ number, plan.Shows number → LongNumber.fits number = true := by
  rw [optionsAreWritable, ← shownNumbers, List.all_eq_true]
  constructor
  · intro all number shown
    exact all number (mem_shownNumbers_of_shows shown)
  · intro all number member
    rcases shows_of_mem_shownNumbers member with shown | rfl
    · exact all number shown
    · exact LongNumber.fits_of_lt (by decide)

namespace Job

theorem blocks_ne_nil (job : Job) {requests : List Request} (nonempty : requests ≠ []) :
    (job.blocks requests).value ≠ [] := by
  obtain ⟨request, rest, rfl⟩ := List.exists_cons_of_ne_nil nonempty
  rw [blocks_value, List.flatMap_cons]
  exact List.cons_ne_nil _ _

/-- A pause always finds a statement before it. -/
theorem entryBody_ne_nil (job : Job) : job.entryBody.value ≠ [] := by
  rw [entryBody]
  split
  · exact List.cons_ne_nil _ _
  · next requests =>
      split
      · exact List.cons_ne_nil _ _
      · exact List.cons_ne_nil _ _
      · exact job.blocks_ne_nil fun empty => requests (List.isEmpty_iff.mpr empty)

theorem script_value (job : Job) :
    job.script.value =
      if optionsAreWritable job.plan then .ok (render standardUnit 0 job.program.value)
      else .error .written := rfl

/-- A plan has a script exactly if each number that its options show can be written. Nothing else stands in the
way: the program has no node out of place, the body of the entry point is never empty, and no scenario selects
a request that is not there. -/
theorem script_outcome (job : Job) :
    toStmts (stmtTrees job.program.value) = .ok job.program.value ∧
      job.entryBody.value ≠ [] ∧
      (∀ scenario ∈ job.plan.scenarios,
        ∀ index ∈ (select scenario.selector job.plan.requests.length).value,
          index < job.plan.requests.length) ∧
      ((∀ number, job.plan.Shows number → LongNumber.fits number = true) ∧
          job.script.value = .ok (render standardUnit 0 job.program.value) ∨
        (∃ number, job.plan.Shows number ∧ LongNumber.fits number = false) ∧
          job.script.value = .error .written) := by
  refine ⟨toStmts_stmtTrees _, job.entryBody_ne_nil,
    fun scenario _ => select_lt scenario.selector job.plan.requests.length, ?_⟩
  rw [script_value]
  split
  · next writable => exact .inl ⟨(optionsAreWritable_iff job.plan).mp writable, rfl⟩
  · next unwritable =>
      refine .inr ⟨?_, rfl⟩
      rw [optionsAreWritable_iff] at unwritable
      push Not at unwritable
      obtain ⟨number, shown, long⟩ := unwritable
      exact ⟨number, shown, Bool.not_eq_true _ ▸ long⟩

end Job

theorem fits_times_ten (number : Int) :
    LongNumber.fits (number * 10) = true ↔ number.natAbs < 10 ^ (LongNumber.digitLimit - 1) := by
  -- The powers are kept apart from their values, which are thousands of digits long.
  obtain ⟨limit, limitEq⟩ : ∃ limit, LongNumber.digitLimit = limit + 1 := ⟨4299, rfl⟩
  have power : Nat.pow 10 (limit + 1) = 10 ^ limit * 10 := rfl
  rw [LongNumber.fits, decide_eq_true_eq, Int.natAbs_mul, limitEq, Nat.add_sub_cancel, power]
  exact Nat.mul_lt_mul_right (by decide)

def sharedSchedule (users : Int) : Plan :=
  { scenariosEnabled := true, scenarios := [{ executor := .sharedIterations, users }] }

def sharedScheduleDocument (users : Int) : Json :=
  .object [
    ("enableScenarios", .boolean true),
    ("scenarios", .array [
      .object [("executor", .string "shared-iterations"), ("vus", .whole users)]])]

theorem readPlan_sharedSchedule (users : Int) :
    Document.readPlan (sharedScheduleDocument users) = .ok (sharedSchedule users) := rfl

theorem not_writable_sharedSchedule {users : Nat}
    (many : 10 ^ (LongNumber.digitLimit - 1) ≤ users) :
    ¬optionsAreWritable (sharedSchedule users) = true := by
  rw [optionsAreWritable_iff]
  intro all
  have runs : (sharedSchedule users).Shows (users * 10) :=
    @Plan.Shows.sharedRuns _ { executor := .sharedIterations, users } rfl List.mem_cons_self rfl
  exact Nat.not_lt.mpr many ((fits_times_ten users).mp (all _ runs))

/-- The least number with as many digits as can be read has one digit too many when it is taken ten times. -/
theorem Job.script_sharedSchedule :
    Document.readPlan (sharedScheduleDocument (10 ^ (LongNumber.digitLimit - 1) : Nat)) =
        .ok (sharedSchedule (10 ^ (LongNumber.digitLimit - 1) : Nat)) ∧
      (Job.mk (sharedSchedule (10 ^ (LongNumber.digitLimit - 1) : Nat)) "dev"
          ⟨2026, 1, 2, 3, 4, 5⟩ "script.js").script.value = .error .written := by
  refine ⟨readPlan_sharedSchedule _, ?_⟩
  rw [script_value, if_neg (not_writable_sharedSchedule (Nat.le_refl _))]

end LoadScript.Compile
