import LoadScript.Plan.LargeNumber
import LoadScript.Proofs.Json.Limits
import LoadScript.Proofs.Number.Range
import LoadScript.Proofs.Plan.Fields

/-!
Documents that are not plans are refused, unless a number or the text itself is beyond a limit.
-/

namespace LoadScript

namespace Document

variable {α β : Type} {members : Entries Json} {key : String} {large : Prop}

def RefusesUnless (large : Prop) (outcome : Read α) : Prop :=
  ∀ fault, outcome = .error fault → fault.isRefusal = true ∨ fault = .numberTooLarge ∧ large

namespace RefusesUnless

theorem ok (value : α) : RefusesUnless large (.ok value) := by
  rintro _ ⟨⟩

theorem refusal {fault : LoadError} (isRefusal : fault.isRefusal = true) :
    RefusesUnless large (.error fault : Read α) := by
  rintro _ ⟨⟩
  exact .inl isRefusal

theorem mono {smaller : Prop} {outcome : Read α} (refuses : RefusesUnless smaller outcome)
    (implies : smaller → large) : RefusesUnless large outcome :=
  fun fault failed => (refuses fault failed).imp_right (And.imp_right implies)

theorem bind {outcome : Read α} {next : α → Read β} (first : RefusesUnless large outcome)
    (second : ∀ value, outcome = .ok value → RefusesUnless large (next value)) :
    RefusesUnless large (outcome >>= next) := by
  intro fault failed
  rcases Outcome.bind_eq_error.mp failed with firstFailed | ⟨value, ran, nextFailed⟩
  · exact first fault firstFailed
  · exact second value ran fault nextFailed

theorem mapM {step : α → Read β} {inputs : List α}
    (each : ∀ input ∈ inputs, RefusesUnless large (step input)) :
    RefusesUnless large (inputs.mapM step) := by
  induction inputs with
  | nil => exact .ok []
  | cons input inputs ih =>
      rw [List.forall_mem_cons] at each
      rw [List.mapM_cons]
      exact each.1.bind fun first _ => (ih each.2).bind fun others _ => .ok (first :: others)

theorem foldlM {step : β → α → Read β} (each : ∀ before input, RefusesUnless large (step before input))
    (start : β) (inputs : List α) : RefusesUnless large (inputs.foldlM step start) := by
  induction inputs generalizing start with
  | nil => exact .ok start
  | cons input inputs ih =>
      rw [List.foldlM_cons]
      exact (each start input).bind fun after _ => ih after

end RefusesUnless

theorem textField_refuses (default : String) :
    RefusesUnless large (textField members key default) := by
  rw [textField]
  split
  · exact .ok _
  · exact .ok _
  · exact .refusal rfl

theorem flagField_refuses (default : Bool) :
    RefusesUnless large (flagField members key default) := by
  rw [flagField]
  split
  · exact .ok _
  · exact .ok _
  · exact .refusal rfl

theorem wholeField_refuses (default : Int) :
    RefusesUnless large (wholeField members key default) := by
  rw [wholeField]
  split
  · exact .ok _
  · exact .ok _
  · exact .refusal rfl

theorem numberField_refuses (default : Double) :
    RefusesUnless (IsTooLarge members key) (numberField members key default) := by
  rw [numberField]
  split
  · exact .ok _
  · next value found =>
      cases converted : Double.ofInt? value with
      | some number => exact .ok number
      | none =>
          rintro _ ⟨⟩
          exact .inr ⟨rfl, value, found, (Double.ofInt?_eq_none_iff value).mp converted⟩
  · exact .ok _
  · exact .refusal rfl

theorem sectionField_refuses : RefusesUnless large (sectionField members key) := by
  rw [sectionField]
  split
  · exact .ok _
  · exact .ok _
  · exact .refusal rfl

theorem entry_refuses (item : Json) : RefusesUnless large (entry key item) := by
  rw [entry.eq_def]
  split
  · exact .ok _
  · exact .refusal rfl

theorem entriesField_refuses : RefusesUnless large (entriesField members key) := by
  rw [entriesField]
  split
  · exact .ok _
  · exact .mapM fun item _ => entry_refuses item
  · exact .refusal rfl

theorem choiceField_refuses (choices : List α) (name : α → String) (default : α) :
    RefusesUnless large (choiceField choices name members key default) := by
  refine (textField_refuses _).bind fun given _ => ?_
  split
  · exact .ok _
  · exact .refusal rfl

theorem readMethod_refuses : RefusesUnless large (readMethod members) := by
  refine (textField_refuses _).bind fun given _ => ?_
  simp only []
  split
  · exact .ok _
  · exact .refusal rfl

theorem readHeader_refuses : RefusesUnless large (readHeader members) :=
  (textField_refuses _).bind fun _ _ => (textField_refuses _).bind fun _ _ => .ok _

theorem readCheck_refuses : RefusesUnless large (readCheck members) :=
  (textField_refuses _).bind fun _ _ => (textField_refuses _).bind fun _ _ => .ok _

theorem readExtraction_refuses : RefusesUnless large (readExtraction members) :=
  (flagField_refuses _).bind fun _ _ => (textField_refuses _).bind fun _ _ =>
    (textField_refuses _).bind fun _ _ => .ok _

theorem readCredentials_refuses (field : Option Json) : RefusesUnless large (readCredentials field) := by
  rw [readCredentials.eq_def]
  split
  · exact (textField_refuses _).bind fun _ _ => (textField_refuses _).bind fun _ _ => .ok _
  · exact .ok _

theorem readFormField_refuses : RefusesUnless large (readFormField members) :=
  (textField_refuses _).bind fun _ _ => (textField_refuses _).bind fun _ _ =>
    (flagField_refuses _).bind fun _ _ => .ok _

theorem readForm_refuses (field : Option Json) : RefusesUnless large (readForm field) := by
  rw [readForm.eq_def]
  split
  · refine entriesField_refuses.bind fun entries _ => ?_
    refine (RefusesUnless.mapM fun _ _ => readFormField_refuses).bind fun _ _ => ?_
    exact (flagField_refuses _).bind fun _ _ => .ok _
  · exact .ok _

theorem readRequest_refuses : RefusesUnless (IsTooLarge members "thinkTime") (readRequest members) := by
  refine readMethod_refuses.bind fun _ _ => ?_
  refine sectionField_refuses.bind fun _ _ => ?_
  refine (textField_refuses _).bind fun _ _ => ?_
  refine (textField_refuses _).bind fun _ _ => ?_
  refine (textField_refuses _).bind fun _ _ => ?_
  refine (numberField_refuses _).bind fun _ _ => ?_
  refine (choiceField_refuses _ _ _).bind fun _ _ => ?_
  refine (textField_refuses _).bind fun _ _ => ?_
  refine entriesField_refuses.bind fun _ _ => ?_
  refine (RefusesUnless.mapM fun _ _ => readHeader_refuses).bind fun _ _ => ?_
  refine entriesField_refuses.bind fun _ _ => ?_
  refine (RefusesUnless.mapM fun _ _ => readCheck_refuses).bind fun _ _ => ?_
  refine readExtraction_refuses.bind fun _ _ => ?_
  refine (readCredentials_refuses _).bind fun _ _ => ?_
  exact (readForm_refuses _).bind fun _ _ => .ok _

theorem readVariable_refuses (profile : String) (before : Entries String) (item : Json) :
    RefusesUnless large (readVariable profile before item) := by
  rw [readVariable.eq_def]
  split
  · refine (textField_refuses _).bind fun name _ => ?_
    simp only []
    split
    · exact .ok _
    · exact (textField_refuses _).bind fun _ _ => .ok _
  · exact .refusal rfl

theorem readProfile_refuses (profile : String) (entries : Json) :
    RefusesUnless large (readProfile profile entries) := by
  rw [readProfile.eq_def]
  split
  · exact (RefusesUnless.foldlM (readVariable_refuses profile) [] _).bind fun _ _ => .ok _
  · exact .refusal rfl

theorem readProfiles_refuses : RefusesUnless large (readProfiles members) := by
  refine sectionField_refuses.bind fun entries _ => RefusesUnless.mapM fun profile _ => ?_
  exact (readProfile_refuses profile.1 profile.2).bind fun _ _ => .ok _

theorem readLoadKind_refuses : RefusesUnless large (readLoadKind members) := by
  refine (textField_refuses _).bind fun name _ => ?_
  split
  · exact .ok _
  · exact .ok _
  · exact choiceField_refuses _ _ _

theorem readStage_refuses : RefusesUnless large (readStage members) :=
  (textField_refuses _).bind fun _ _ => (wholeField_refuses _).bind fun _ _ => .ok _

theorem readScenario_refuses : RefusesUnless large (readScenario members) := by
  refine (textField_refuses _).bind fun _ _ => ?_
  refine (choiceField_refuses _ _ _).bind fun _ _ => ?_
  refine (textField_refuses _).bind fun _ _ => ?_
  refine (wholeField_refuses _).bind fun _ _ => ?_
  refine (textField_refuses _).bind fun _ _ => ?_
  exact (textField_refuses _).bind fun _ _ => .ok _

theorem readThinkTime_refuses :
    RefusesUnless (∃ key ∈ ["fixed", "min", "max"], IsTooLarge members key) (readThinkTime members) := by
  have number {key : String} (known : key ∈ ["fixed", "min", "max"]) (default : Double) :
      RefusesUnless (∃ key ∈ ["fixed", "min", "max"], IsTooLarge members key)
        (numberField members key default) :=
    (numberField_refuses default).mono fun large => ⟨key, known, large⟩
  refine (choiceField_refuses _ _ _).bind fun _ _ => ?_
  refine (number (by decide) _).bind fun _ _ => ?_
  refine (number (by decide) _).bind fun _ _ => ?_
  exact (number (by decide) _).bind fun _ _ => .ok _

theorem readThresholds_refuses :
    RefusesUnless (IsTooLarge members "errorRate") (readThresholds members) := by
  refine (flagField_refuses _).bind fun _ _ => ?_
  refine (wholeField_refuses _).bind fun _ _ => ?_
  refine (wholeField_refuses _).bind fun _ _ => ?_
  exact (numberField_refuses _).bind fun _ _ => .ok _

theorem not_isTooLarge_nil : ¬ IsTooLarge [] key := by
  rintro ⟨value, found, -⟩
  cases found

theorem field?_of_sectionField {part : Entries Json} (read : sectionField members key = .ok part) :
    part = [] ∨ field? members key = some (.object part) := by
  rw [sectionField] at read
  split at read
  · cases read
    exact .inl rfl
  · next found =>
      cases read
      exact .inr found
  · cases read

theorem field?_of_entriesField {entries : List (Entries Json)} {part : Entries Json}
    (read : entriesField members key = .ok entries) (listed : part ∈ entries) :
    ∃ items, field? members key = some (.array items) ∧ .object part ∈ items := by
  rw [entriesField] at read
  split at read
  · cases read
    cases listed
  · next items found =>
      obtain ⟨item, member, itemRead⟩ := Outcome.exists_of_mapM read listed
      rw [entry.eq_def] at itemRead
      split at itemRead
      · cases itemRead
        exact ⟨items, found, member⟩
      · cases itemRead
  · cases read

theorem readPlanFields_refuses : RefusesUnless (HoldsLargeNumber members) (readPlanFields members) := by
  refine readLoadKind_refuses.bind fun _ _ => ?_
  refine sectionField_refuses.bind fun thinkTime thinkTimeRead => ?_
  refine sectionField_refuses.bind fun thresholds thresholdsRead => ?_
  refine (textField_refuses _).bind fun _ _ => ?_
  refine (textField_refuses _).bind fun _ _ => ?_
  refine (wholeField_refuses _).bind fun _ _ => ?_
  refine (textField_refuses _).bind fun _ _ => ?_
  refine (choiceField_refuses _ _ _).bind fun _ _ => ?_
  refine (textField_refuses _).bind fun _ _ => ?_
  refine (wholeField_refuses _).bind fun _ _ => ?_
  refine entriesField_refuses.bind fun _ _ => ?_
  refine (RefusesUnless.mapM fun _ _ => readStage_refuses).bind fun _ _ => ?_
  refine entriesField_refuses.bind fun _ _ => ?_
  refine (RefusesUnless.mapM fun _ _ => readScenario_refuses).bind fun _ _ => ?_
  refine (flagField_refuses _).bind fun _ _ => ?_
  -- From here on readers may break off, in three places of the document.
  have largePause : (∃ key ∈ ["fixed", "min", "max"], IsTooLarge thinkTime key) →
      HoldsLargeNumber members := by
    rintro ⟨key, known, large⟩
    rcases field?_of_sectionField thinkTimeRead with rfl | found
    · exact absurd large not_isTooLarge_nil
    · exact .thinkTime found known large
  refine (readThinkTime_refuses.mono largePause).bind fun _ _ => ?_
  refine entriesField_refuses.bind fun requests requestsRead => ?_
  have largeRequest (request : Entries Json) (listed : request ∈ requests) :
      IsTooLarge request "thinkTime" → HoldsLargeNumber members := by
    obtain ⟨items, found, member⟩ := field?_of_entriesField requestsRead listed
    exact .request found member
  refine (RefusesUnless.mapM fun request listed =>
    readRequest_refuses.mono (largeRequest request listed)).bind fun _ _ => ?_
  have largeRate : IsTooLarge thresholds "errorRate" → HoldsLargeNumber members := by
    intro large
    rcases field?_of_sectionField thresholdsRead with rfl | found
    · exact absurd large not_isTooLarge_nil
    · exact .errorRate found large
  refine (readThresholds_refuses.mono largeRate).bind fun _ _ => ?_
  simp only []
  split
  · exact readProfiles_refuses.bind fun _ _ => .ok _
  · exact .ok _

theorem readPlan_refuses (document : Json) :
    RefusesUnless (∃ members, document = .object members ∧ HoldsLargeNumber members)
      (readPlan document) := by
  rw [readPlan.eq_def]
  split
  · next members => exact readPlanFields_refuses.mono fun large => ⟨members, rfl, large⟩
  · exact .refusal rfl

end Document

namespace Plan

open Document

variable {reader : Json.Reader}

theorem load_of_parse {text : String} {document : Json} (parsed : Json.parse reader text = .ok document) :
    load reader text = readPlan document := by
  rw [load, parsed]
  rfl

theorem load_of_parse_error {text : String} {fault : Json.ReadError}
    (failed : Json.parse reader text = .error fault) : load reader text = .error (.ofReadError fault) := by
  rw [load, failed]
  rfl

/-- Loading gives a plan or refuses the text, unless the text goes beyond a limit of reading or its document
holds a number that is too large. -/
theorem load_outcome (reader : Json.Reader) (text : String) :
    (∃ plan, load reader text = .ok plan) ∨
      (∃ fault, load reader text = .error fault ∧ fault.isRefusal = true) ∨
      (load reader text = .error .numberTooLarge ∧
        ∃ members, Json.parse reader text = .ok (.object members) ∧ HoldsLargeNumber members) ∨
      (∃ excess, load reader text = .error (.overrun excess) ∧
        Json.Exceeds reader (.outside 0) text.toList excess) := by
  cases parsed : Json.parse reader text with
  | ok document =>
      rw [load_of_parse parsed]
      cases read : readPlan document with
      | ok plan => exact .inl ⟨plan, rfl⟩
      | error fault =>
          rcases readPlan_refuses document fault read with refused | ⟨rfl, members, rfl, large⟩
          · exact .inr (.inl ⟨fault, rfl, refused⟩)
          · exact .inr (.inr (.inl ⟨rfl, members, rfl, large⟩))
  | error fault =>
      have failed := load_of_parse_error parsed
      cases fault with
      | badSyntax error => exact .inr (.inl ⟨.badSyntax error, failed, rfl⟩)
      | overrun excess => exact .inr (.inr (.inr ⟨excess, failed, Json.exceeds_of_parse parsed⟩))

theorem load_deep {count : Nat} (beyond : reader.nestingLimit < count) :
    load reader (String.ofList (List.replicate count '[')) = .error (.overrun .deepList) :=
  load_of_parse_error (Json.parse_deep beyond)

theorem load_long {digits : List Char} (all : Double.Spelling.AllDigits digits)
    (lead : digits.head? ≠ some '0') (long : LongNumber.digitLimit < digits.length) :
    load reader (String.ofList digits) = .error (.overrun (.longNumber (.read digits.length))) :=
  load_of_parse_error (Json.parse_long all lead (reader.digitLimit_eq.symm ▸ long))

def withLargePause : Json :=
  .object [("thinkTime", .object [("fixed", .whole (Int.ofNat (Double.tenTo 309)))])]

theorem withLargePause_isReadable (reader : Json.Reader) : Json.IsReadable reader 0 withLargePause := by
  have fits : LongNumber.fits (Int.ofNat (Double.tenTo 309)) = true := by decide +kernel
  have roomy := reader.roomy
  exact ⟨by omega, by decide, ⟨by omega, by decide, Json.isReadable_whole reader 2 fits, trivial⟩, trivial⟩

/-- Loading a document that is read in full breaks off, and does not refuse it. -/
theorem load_withLargePause :
    load .standard (withLargePause.render .oneLine) = .error .numberTooLarge ∧
      LoadError.numberTooLarge.isRefusal = false := by
  refine ⟨?_, rfl⟩
  rw [load_of_parse (Json.parse_render .oneLine (withLargePause_isReadable .standard))]
  exact Outcome.eq_error_of_fault? (by decide +kernel)

end Plan

end LoadScript
