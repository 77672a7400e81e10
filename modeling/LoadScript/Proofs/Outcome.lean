/-!
Taking apart computations that gave a result.
-/

namespace LoadScript.Outcome

variable {ε α β : Type}

theorem bind_eq_ok {outcome : Except ε α} {next : α → Except ε β} {result : β} :
    outcome >>= next = .ok result ↔ ∃ value, outcome = .ok value ∧ next value = .ok result := by
  cases outcome with
  | error fault => simp [bind, Except.bind]
  | ok value => simp [bind, Except.bind]

theorem bind_eq_error {outcome : Except ε α} {next : α → Except ε β} {fault : ε} :
    outcome >>= next = .error fault ↔
      outcome = .error fault ∨ ∃ value, outcome = .ok value ∧ next value = .error fault := by
  cases outcome with
  | error found => simp [bind, Except.bind]
  | ok value => simp [bind, Except.bind]

theorem mapError_eq_error {δ : Type} {convert : ε → δ} {outcome : Except ε α} {result : δ} :
    outcome.mapError convert = .error result ↔
      ∃ fault, outcome = .error fault ∧ convert fault = result := by
  cases outcome with
  | error found =>
      constructor
      · rintro ⟨⟩
        exact ⟨found, rfl, rfl⟩
      · rintro ⟨_, ⟨⟩, rfl⟩
        rfl
  | ok value =>
      constructor
      · rintro ⟨⟩
      · rintro ⟨_, ⟨⟩, -⟩

theorem pure_eq_ok {value result : α} :
    (pure value : Except ε α) = .ok result ↔ value = result :=
  ⟨Except.ok.inj, congrArg Except.ok⟩

theorem eq_ok_of_toOption {outcome : Except ε α} {value : α}
    (same : outcome.toOption = some value) : outcome = .ok value := by
  cases outcome with
  | error fault => cases same
  | ok result =>
      cases same
      rfl

def fault? : Except ε α → Option ε
  | .error fault => some fault
  | .ok _ => none

theorem eq_error_of_fault? {outcome : Except ε α} {fault : ε} (same : fault? outcome = some fault) :
    outcome = .error fault := by
  cases outcome with
  | error found =>
      cases same
      rfl
  | ok value => cases same

theorem mapM_cons_eq_ok {step : α → Except ε β} {input : α} {inputs : List α} {results : List β} :
    (input :: inputs).mapM step = .ok results ↔
      ∃ first others, step input = .ok first ∧ inputs.mapM step = .ok others ∧ first :: others = results := by
  simp only [List.mapM_cons, bind_eq_ok, pure_eq_ok, exists_and_left]

theorem forall_of_mapM {step : α → Except ε β} {holds : β → Prop} {inputs : List α}
    {results : List β} (each : ∀ input ∈ inputs, ∀ result, step input = .ok result → holds result)
    (ran : inputs.mapM step = .ok results) : ∀ result ∈ results, holds result := by
  induction inputs generalizing results with
  | nil =>
      rw [List.mapM_nil, pure_eq_ok] at ran
      rw [← ran]
      simp
  | cons input inputs ih =>
      obtain ⟨first, others, firstRan, othersRan, rfl⟩ := mapM_cons_eq_ok.mp ran
      rw [List.forall_mem_cons]
      constructor
      · exact each input List.mem_cons_self first firstRan
      · exact ih (fun other found => each other (List.mem_cons_of_mem _ found)) othersRan

theorem exists_of_mapM {step : α → Except ε β} {inputs : List α} {results : List β} {result : β}
    (ran : inputs.mapM step = .ok results) (found : result ∈ results) :
    ∃ input ∈ inputs, step input = .ok result := by
  induction inputs generalizing results with
  | nil =>
      rw [List.mapM_nil, pure_eq_ok] at ran
      subst ran
      cases found
  | cons input inputs ih =>
      obtain ⟨first, others, firstRan, othersRan, rfl⟩ := mapM_cons_eq_ok.mp ran
      rcases List.mem_cons.mp found with rfl | inOthers
      · exact ⟨input, List.mem_cons_self, firstRan⟩
      · obtain ⟨source, member, sourceRan⟩ := ih othersRan inOthers
        exact ⟨source, List.mem_cons_of_mem _ member, sourceRan⟩

theorem mapM_map_eq_ok {step : β → Except ε α} {back : α → β} {values : List α}
    (each : ∀ value ∈ values, step (back value) = .ok value) :
    (values.map back).mapM step = .ok values := by
  induction values with
  | nil => rfl
  | cons value values ih =>
      have others := ih fun other found => each other (List.mem_cons_of_mem _ found)
      rw [List.map_cons, List.mapM_cons, each value List.mem_cons_self, others]
      rfl

end LoadScript.Outcome
