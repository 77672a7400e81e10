import LoadScript.Plan.Reader
import LoadScript.Plan.Shape
import LoadScript.Proofs.Number.Range
import LoadScript.Proofs.Outcome
import LoadScript.Proofs.Plan.Fields

/-!
Plans are read from exactly the documents of their shape, and of what is unknown in a document nothing is
read.
-/

namespace LoadScript.Document

variable {α β : Type} {fields table inner : Entries Shape} {members : Entries Json} {key : String}
  {shape : Shape} {holds : Prop}

theorem conforms_nil : Conforms fields [] := by
  rintro field - _ ⟨⟩

theorem conforms_cons :
    Conforms ((key, shape) :: fields) members ↔
      HasShape shape members key ∧ Conforms fields members :=
  List.forall_mem_cons

theorem HasShape.of_conforms (conforms : Conforms table members) (listed : (key, shape) ∈ table) :
    HasShape shape members key := conforms _ listed

/-! What is known of an object is found in it under the same keys. -/

theorem find?_knownMembers (listed : table.find? key = some shape) (members : Entries Json) :
    (knownMembers table members).find? key = (members.find? key).map shape.known := by
  rw [Entries.find?] at listed
  induction members with
  | nil => rfl
  | cons member members ih =>
      obtain ⟨name, value⟩ := member
      by_cases same : key = name
      · subst same
        simp [knownMembers, Entries.find?, listed]
      · have apart : (key == name) = false := beq_false_of_ne same
        have kept : Entries.find? ((name, value) :: members) key = Entries.find? members key := by
          simp [Entries.find?, List.lookup_cons, apart]
        rw [kept, ← ih]
        cases known : List.lookup name table <;>
          simp [knownMembers, Entries.find?, List.lookup_cons, apart, known]

/-- A field whose shape keeps null apart from the other values. -/
theorem field?_knownMembers (listed : table.find? key = some shape)
    (kept : ∀ value, shape.known value = .null ↔ value = .null) (members : Entries Json) :
    field? (knownMembers table members) key = (field? members key).map shape.known := by
  rw [field?, field?, find?_knownMembers listed]
  cases found : members.find? key with
  | none => rfl
  | some value =>
      by_cases isNull : value = .null
      · subst isNull
        rw [Option.map_some, (kept .null).mpr rfl]
        rfl
      · have knownToo := mt (kept value).mp isNull
        rw [Option.map_some]
        split
        · next same => exact absurd (Option.some.inj same) knownToo
        · split
          · next same => exact absurd (Option.some.inj same) isNull
          · rfl

theorem field?_knownMembers_self (listed : table.find? key = some shape) (whole : shape.known = id)
    (members : Entries Json) : field? (knownMembers table members) key = field? members key := by
  rw [field?_knownMembers listed (fun value => by rw [whole, id]), whole, Option.map_id, id]

structure Reads (holds : Prop) (outcome known : Read α) : Prop where
  succeeds : (∃ value, outcome = .ok value) ↔ holds
  same : known = outcome

def ReadsTable (table : Entries Shape) (reader : Entries Json → Read α) : Prop :=
  ∀ members, Reads (Conforms table members) (reader members) (reader (knownMembers table members))

namespace Reads

theorem ok (value : α) : Reads (Conforms [] members) (.ok value) (.ok value) :=
  ⟨⟨fun _ _ listed => absurd listed List.not_mem_nil, fun _ => ⟨value, rfl⟩⟩, rfl⟩

theorem congr {other : Prop} {outcome known : Read α} (reads : Reads holds outcome known)
    (same : holds ↔ other) : Reads other outcome known :=
  ⟨reads.succeeds.trans same, reads.same⟩

theorem bind {other : Prop} {outcome known : Read α} {next nextKnown : α → Read β}
    (first : Reads holds outcome known)
    (second : ∀ value, outcome = .ok value → Reads other (next value) (nextKnown value)) :
    Reads (holds ∧ other) (outcome >>= next) (known >>= nextKnown) := by
  rw [first.same]
  cases read : outcome with
  | error fault =>
      refine ⟨⟨?_, ?_⟩, rfl⟩
      · rintro ⟨_, ⟨⟩⟩
      · rintro ⟨held, -⟩
        obtain ⟨value, absurdity⟩ := first.succeeds.mpr held
        rw [read] at absurdity
        cases absurdity
  | ok value =>
      have step := second value read
      have held := first.succeeds.mp ⟨value, read⟩
      exact ⟨⟨fun done => ⟨held, step.succeeds.mp done⟩, fun both => step.succeeds.mpr both.2⟩,
        step.same⟩

theorem map {outcome known : Read α} (reads : Reads holds outcome known) (finish : α → β) :
    Reads holds (outcome >>= fun value => pure (finish value))
      (known >>= fun value => pure (finish value)) := by
  have done (value : α) : Reads True (pure (finish value) : Read β) (pure (finish value)) :=
    ⟨⟨fun _ => trivial, fun _ => ⟨_, rfl⟩⟩, rfl⟩
  exact (reads.bind fun value _ => done value).congr (and_iff_left trivial)

theorem field {outcome known : Read α} {next nextKnown : α → Read β}
    (first : Reads (HasShape shape members key) outcome known)
    (others : ∀ value, outcome = .ok value →
      Reads (Conforms fields members) (next value) (nextKnown value)) :
    Reads (Conforms ((key, shape) :: fields) members) (outcome >>= next) (known >>= nextKnown) :=
  (first.bind others).congr conforms_cons.symm

/-- A part is taken out of its document first and read later. -/
theorem later {outcome known : Read α} {change : α → α} {next nextKnown : α → Read β}
    (seen : known = outcome.map change) (needed : holds → ∃ part, outcome = .ok part)
    (reads : ∀ part, outcome = .ok part → Reads holds (next part) (nextKnown (change part))) :
    Reads holds (outcome >>= next) (known >>= nextKnown) := by
  rw [seen]
  cases found : outcome with
  | error fault =>
      refine ⟨⟨?_, ?_⟩, rfl⟩
      · rintro ⟨_, ⟨⟩⟩
      · intro held
        obtain ⟨part, absurdity⟩ := needed held
        rw [found] at absurdity
        cases absurdity
  | ok part => exact reads part found

theorem mapM {δ : Type} {step : α → Read β} {stepKnown : δ → Read β} {known : α → δ}
    {accepts : α → Prop} (each : ∀ input, Reads (accepts input) (step input) (stepKnown (known input)))
    (inputs : List α) :
    Reads (∀ input ∈ inputs, accepts input) (inputs.mapM step) ((inputs.map known).mapM stepKnown) := by
  induction inputs with
  | nil => exact ⟨⟨fun _ _ listed => absurd listed List.not_mem_nil, fun _ => ⟨[], rfl⟩⟩, rfl⟩
  | cons input inputs ih =>
      rw [List.map_cons, List.mapM_cons, List.mapM_cons]
      have all := (each input).bind fun first _ => ih.map (first :: ·)
      exact all.congr List.forall_mem_cons.symm

theorem foldlM {step : β → α → Read β} {stepKnown : β → α → Read β} {known : α → α}
    {accepts : α → Prop}
    (each : ∀ before input, Reads (accepts input) (step before input) (stepKnown before (known input)))
    (start : β) (inputs : List α) :
    Reads (∀ input ∈ inputs, accepts input) (inputs.foldlM step start)
      ((inputs.map known).foldlM stepKnown start) := by
  induction inputs generalizing start with
  | nil => exact ⟨⟨fun _ _ listed => absurd listed List.not_mem_nil, fun _ => ⟨start, rfl⟩⟩, rfl⟩
  | cons input inputs ih =>
      rw [List.map_cons, List.foldlM_cons, List.foldlM_cons]
      exact ((each start input).bind fun after _ => ih after).congr List.forall_mem_cons.symm

end Reads

/-! The readers of single fields. -/

theorem textField_reads (listed : table.find? key = some .text) (default : String) :
    Reads (HasShape .text members key) (textField members key default)
      (textField (knownMembers table members) key default) := by
  refine ⟨?_, ?_⟩
  · rw [textField, HasShape]
    cases field? members key with
    | none => simp
    | some value => cases value <;> simp [Shape.text]
  · rw [textField, field?_knownMembers_self listed rfl, textField]

theorem flagField_reads (listed : table.find? key = some .flag) (default : Bool) :
    Reads (HasShape .flag members key) (flagField members key default)
      (flagField (knownMembers table members) key default) := by
  refine ⟨?_, ?_⟩
  · rw [flagField, HasShape]
    cases field? members key with
    | none => simp
    | some value => cases value <;> simp [Shape.flag]
  · rw [flagField, field?_knownMembers_self listed rfl, flagField]

theorem wholeField_reads (listed : table.find? key = some .whole) (default : Int) :
    Reads (HasShape .whole members key) (wholeField members key default)
      (wholeField (knownMembers table members) key default) := by
  refine ⟨?_, ?_⟩
  · rw [wholeField, HasShape]
    cases field? members key with
    | none => simp
    | some value => cases value <;> simp [Shape.whole]
  · rw [wholeField, field?_knownMembers_self listed rfl, wholeField]

theorem nearestNumber_succeeds (value : Int) :
    (∃ number, nearestNumber (Double.ofInt? value) = .ok number) ↔
      value.natAbs < Double.twoTo 1024 - Double.twoTo 970 := by
  have range := Double.ofInt?_eq_none_iff value
  cases near : Double.ofInt? value with
  | none =>
      rw [near] at range
      have beyond := range.mp rfl
      simp only [nearestNumber, reduceCtorEq, exists_false, false_iff]
      omega
  | some number =>
      rw [near] at range
      have within : ¬ Double.twoTo 1024 - Double.twoTo 970 ≤ value.natAbs :=
        fun beyond => absurd (range.mpr beyond) (Option.some_ne_none number)
      exact ⟨fun _ => Nat.lt_of_not_le within, fun _ => ⟨number, rfl⟩⟩

theorem numberField_reads (listed : table.find? key = some .number) (default : Double) :
    Reads (HasShape .number members key) (numberField members key default)
      (numberField (knownMembers table members) key default) := by
  refine ⟨?_, ?_⟩
  · rw [numberField, HasShape]
    cases field? members key with
    | none => simp
    | some value => cases value <;> simp [Shape.number, nearestNumber_succeeds]
  · rw [numberField, field?_knownMembers_self listed rfl, numberField]

theorem namedField_reads {isName : String → Prop} {default : String} {next nextKnown : String → Read α}
    (listed : table.find? key = some (.named isName)) (isDefault : isName default)
    (named : ∀ given, textField members key default = .ok given →
      Reads (isName given) (next given) (nextKnown given)) :
    Reads (HasShape (.named isName) members key) (textField members key default >>= next)
      (textField (knownMembers table members) key default >>= nextKnown) := by
  have kept : textField (knownMembers table members) key default = textField members key default := by
    rw [textField, field?_knownMembers_self listed rfl, textField]
  rw [kept, HasShape]
  rw [textField] at named ⊢
  cases found : field? members key with
  | none =>
      rw [found] at named
      have step := named default rfl
      refine ⟨step.succeeds.trans ⟨?_, fun _ => isDefault⟩, step.same⟩
      rintro - _ ⟨⟩
  | some value =>
      rw [found] at named
      cases value with
      | string given =>
          have step := named given rfl
          refine ⟨step.succeeds.trans ⟨?_, ?_⟩, step.same⟩
          · rintro isName _ ⟨⟩
            exact ⟨given, rfl, isName⟩
          · intro accepted
            obtain ⟨name, same, isName⟩ := accepted _ rfl
            cases same
            exact isName
      | _ =>
          refine ⟨⟨?_, ?_⟩, rfl⟩
          · rintro ⟨_, ⟨⟩⟩
          · intro accepted
            obtain ⟨name, same, -⟩ := accepted _ rfl
            cases same

theorem exists_find?_named {choices : List α} {name : α → String} {given : String} :
    (∃ choice, (choices.find? fun choice => name choice = given) = some choice) ↔
      given ∈ choices.map name := by
  rw [← Option.isSome_iff_exists, List.find?_isSome, List.mem_map]
  simp

theorem choice_succeeds {choices : List α} {name : α → String} (given : String) :
    (∃ choice, (match choices.find? fun choice => name choice = given with
      | some choice => pure choice
      | none => .error (.notOneOf key (choices.map name) given) : Read α) = .ok choice) ↔
    given ∈ choices.map name := by
  rw [← exists_find?_named]
  cases choices.find? fun choice => name choice = given with
  | none => simp
  | some choice => simp [Outcome.pure_eq_ok]

theorem choiceField_reads {choices : List α} {name : α → String} {default : α}
    (listed : table.find? key = some (.choice (choices.map name))) (offered : default ∈ choices) :
    Reads (HasShape (.choice (choices.map name)) members key)
      (choiceField choices name members key default)
      (choiceField choices name (knownMembers table members) key default) :=
  namedField_reads listed (List.mem_map_of_mem offered) fun given _ => ⟨choice_succeeds given, rfl⟩

theorem readMethod_reads (listed : table.find? "method" = some .method) :
    Reads (HasShape .method members "method") (readMethod members)
      (readMethod (knownMembers table members)) := by
  refine namedField_reads listed (by decide) fun given _ => ⟨?_, rfl⟩
  have named : (∃ method, Method.ofName? (Text.upper given) = some method) ↔
      Text.upper given ∈ Method.all.map Method.name := exists_find?_named
  refine Iff.trans ?_ named
  simp only []
  cases Method.ofName? (Text.upper given) with
  | none => simp
  | some method => simp [Outcome.pure_eq_ok]

/-- The field is read a second time unless it has an older spelling. -/
theorem readLoadKind_reads (listed : table.find? "loadType" = some .loadKind) :
    Reads (HasShape .loadKind members "loadType") (readLoadKind members)
      (readLoadKind (knownMembers table members)) := by
  refine namedField_reads listed (by decide) fun given givenRead => ?_
  have kept : textField (knownMembers table members) "loadType" LoadKind.constant.name = .ok given := by
    rw [← givenRead, textField, field?_knownMembers_self listed rfl, textField]
  split
  · exact ⟨⟨fun _ => by decide, fun _ => ⟨_, rfl⟩⟩, rfl⟩
  · exact ⟨⟨fun _ => by decide, fun _ => ⟨_, rfl⟩⟩, rfl⟩
  · next notUp notDown =>
      rw [choiceField, givenRead, choiceField, kept]
      refine ⟨(choice_succeeds given).trans ?_, rfl⟩
      rw [List.mem_cons, List.mem_cons, or_iff_right notUp, or_iff_right notDown]

/-! The readers of sections and lists. -/

theorem Shape.object_known_eq_null (value : Json) :
    (Shape.object inner).known value = .null ↔ value = .null := by
  cases value <;> simp [Shape.object]

theorem Shape.list_known_eq_null (value : Json) :
    (Shape.list shape).known value = .null ↔ value = .null := by
  cases value <;> simp [Shape.list]

theorem Shape.table_known_eq_null (value : Json) :
    (Shape.table shape).known value = .null ↔ value = .null := by
  cases value <;> simp [Shape.table]

theorem sectionField_knownMembers (listed : table.find? key = some (.object inner))
    (members : Entries Json) :
    sectionField (knownMembers table members) key =
      (sectionField members key).map (knownMembers inner) := by
  rw [sectionField, field?_knownMembers listed Shape.object_known_eq_null, sectionField]
  cases field? members key with
  | none => rfl
  | some value => cases value <;> rfl

/-- A section is found where it is missing, too, and has no members then. -/
theorem hasShape_object_iff {part : Entries Json} (read : sectionField members key = .ok part) :
    HasShape (.object inner) members key ↔ Conforms inner part := by
  rw [sectionField] at read
  rw [HasShape]
  split at read
  · next missing =>
      cases read
      simp [missing, conforms_nil]
  · next found =>
      cases read
      simp [found, Shape.object]
  · cases read

theorem hasShape_table_iff {part : Entries Json} (read : sectionField members key = .ok part) :
    HasShape (.table shape) members key ↔ ∀ member ∈ part, shape.Accepts member.2 := by
  rw [sectionField] at read
  rw [HasShape]
  split at read
  · next missing =>
      cases read
      simp [missing]
  · next found =>
      cases read
      simp [found, Shape.table]
  · cases read

theorem exists_section (shaped : HasShape shape members key)
    (object : ∀ value, shape.Accepts value → ∃ part, value = .object part) :
    ∃ part, sectionField members key = .ok part := by
  rw [sectionField]
  cases found : field? members key with
  | none => exact ⟨[], rfl⟩
  | some value =>
      obtain ⟨part, rfl⟩ := object value (shaped value found)
      exact ⟨part, rfl⟩

theorem Reads.section {next nextKnown : Entries Json → Read α}
    (listed : table.find? key = some (.object inner))
    (needed : holds → HasShape (.object inner) members key)
    (reads : ∀ part, sectionField members key = .ok part →
      Reads holds (next part) (nextKnown (knownMembers inner part))) :
    Reads holds (sectionField members key >>= next)
      (sectionField (knownMembers table members) key >>= nextKnown) :=
  .later (sectionField_knownMembers listed members)
    (fun held => exists_section (needed held) fun _ accepted => accepted.imp fun _ => And.left) reads

theorem ReadsTable.part {reader : Entries Json → Read α} {part : Entries Json}
    (reads : ReadsTable inner reader) (found : sectionField members key = .ok part) :
    Reads (HasShape (.object inner) members key) (reader part) (reader (knownMembers inner part)) :=
  (reads part).congr (hasShape_object_iff found).symm

theorem eq_map_of_mapM_entry {items : List Json} {parts : List (Entries Json)}
    (read : items.mapM (entry key) = .ok parts) : items = parts.map .object := by
  induction items generalizing parts with
  | nil =>
      cases read
      rfl
  | cons item items ih =>
      obtain ⟨part, others, itemRead, othersRead, rfl⟩ := Outcome.mapM_cons_eq_ok.mp read
      cases item <;> cases itemRead
      rw [ih othersRead, List.map_cons]

theorem mapM_entry_known (items : List Json) :
    (items.map (Shape.object inner).known).mapM (entry key) =
      (items.mapM (entry key)).map (List.map (knownMembers inner)) := by
  induction items with
  | nil => rfl
  | cons item items ih =>
      rw [List.map_cons, List.mapM_cons, List.mapM_cons, ih]
      cases item with
      | object part => cases items.mapM (entry key) <;> rfl
      | _ => rfl

theorem entriesField_knownMembers (listed : table.find? key = some (.list (.object inner)))
    (members : Entries Json) :
    entriesField (knownMembers table members) key =
      (entriesField members key).map (List.map (knownMembers inner)) := by
  rw [entriesField, field?_knownMembers listed Shape.list_known_eq_null, entriesField]
  cases field? members key with
  | none => rfl
  | some value =>
      cases value with
      | array items => exact mapM_entry_known items
      | _ => rfl

theorem hasShape_list_iff {parts : List (Entries Json)} (read : entriesField members key = .ok parts) :
    HasShape (.list (.object inner)) members key ↔ ∀ part ∈ parts, Conforms inner part := by
  rw [entriesField] at read
  rw [HasShape]
  split at read
  · next missing =>
      cases read
      simp [missing]
  · next items found =>
      have same := eq_map_of_mapM_entry read
      subst same
      simp [found, Shape.list, Shape.object]
  · cases read

theorem exists_entries (shaped : HasShape (.list (.object inner)) members key) :
    ∃ parts, entriesField members key = .ok parts := by
  rw [entriesField]
  cases found : field? members key with
  | none => exact ⟨[], rfl⟩
  | some value =>
      obtain ⟨items, same, accepted⟩ := shaped value found
      subst same
      have each (item : Json) :
          Reads (∃ part, item = .object part) (entry key item) (entry key (id item)) := by
        refine ⟨?_, rfl⟩
        cases item <;> simp [entry]
      exact (Reads.mapM each items).succeeds.mpr fun item listed =>
        (accepted item listed).imp fun part object => object.1

/-- A list of objects is taken first, and its objects are read afterwards. -/
theorem Reads.entries {reader : Entries Json → Read α} {next nextKnown : List α → Read β}
    (reads : ReadsTable inner reader) (listed : table.find? key = some (.list (.object inner)))
    (others : ∀ values, Reads (Conforms fields members) (next values) (nextKnown values)) :
    Reads (Conforms ((key, .list (.object inner)) :: fields) members)
      (entriesField members key >>= fun parts => parts.mapM reader >>= next)
      (entriesField (knownMembers table members) key >>= fun parts =>
        parts.mapM reader >>= nextKnown) := by
  refine .later (entriesField_knownMembers listed members)
    (fun held => exists_entries (conforms_cons.mp held).1) fun parts found => ?_
  have each := (Reads.mapM reads parts).congr (hasShape_list_iff found).symm
  exact each.field fun values _ => others values

theorem Reads.optional {reader : Option Json → Read (Option α)}
    (listed : table.find? key = some (.optional inner))
    (ofObject : ReadsTable inner fun part => reader (some (.object part)))
    (otherwise : ∀ found, (∀ part, found ≠ some (.object part)) → reader found = .ok none) :
    Reads (HasShape (.optional inner) members key) (reader (members.find? key))
      (reader ((knownMembers table members).find? key)) := by
  rw [find?_knownMembers listed, HasShape, field?]
  by_cases object : ∃ part, members.find? key = some (.object part)
  · obtain ⟨part, found⟩ := object
    rw [found]
    refine (ofObject part).congr ?_
    simp [Shape.optional]
  · rw [not_exists] at object
    have known (part : Entries Json) :
        (members.find? key).map (Shape.optional inner).known ≠ some (.object part) := by
      intro same
      obtain ⟨value, found, same⟩ := Option.map_eq_some_iff.mp same
      cases value with
      | object whole => exact object whole found
      | _ => cases same
    rw [otherwise _ object, otherwise _ known]
    refine ⟨⟨?_, fun _ => ⟨none, rfl⟩⟩, rfl⟩
    rintro - value found part rfl
    split at found
    · cases found
    · exact absurd found (object part)

/-! The readers of the parts of a plan, field by field. -/

theorem readHeader_readsTable : ReadsTable headerFields readHeader := fun _ =>
  .field (textField_reads rfl _) fun _ _ => .field (textField_reads rfl _) fun _ _ => .ok _

theorem readCheck_readsTable : ReadsTable checkFields readCheck := fun _ =>
  .field (textField_reads rfl _) fun _ _ => .field (textField_reads rfl _) fun _ _ => .ok _

theorem readExtraction_readsTable : ReadsTable extractionFields readExtraction := fun _ =>
  .field (flagField_reads rfl _) fun _ _ => .field (textField_reads rfl _) fun _ _ =>
    .field (textField_reads rfl _) fun _ _ => .ok _

theorem readFormField_readsTable : ReadsTable formFieldFields readFormField := fun _ =>
  .field (textField_reads rfl _) fun _ _ => .field (textField_reads rfl _) fun _ _ =>
    .field (flagField_reads rfl _) fun _ _ => .ok _

theorem readStage_readsTable : ReadsTable stageFields readStage := fun _ =>
  .field (textField_reads rfl _) fun _ _ => .field (wholeField_reads rfl _) fun _ _ => .ok _

theorem readScenario_readsTable : ReadsTable scenarioFields readScenario := by
  intro members
  refine .field (textField_reads rfl _) fun _ _ => ?_
  refine .field (choiceField_reads rfl (by decide)) fun _ _ => ?_
  refine .field (textField_reads rfl _) fun _ _ => ?_
  refine .field (wholeField_reads rfl _) fun _ _ => ?_
  refine .field (textField_reads rfl _) fun _ _ => ?_
  exact .field (textField_reads rfl _) fun _ _ => .ok _

theorem readThinkTime_readsTable : ReadsTable thinkTimeFields readThinkTime := by
  intro members
  refine .field (choiceField_reads rfl (by decide)) fun _ _ => ?_
  refine .field (numberField_reads rfl _) fun _ _ => ?_
  refine .field (numberField_reads rfl _) fun _ _ => ?_
  exact .field (numberField_reads rfl _) fun _ _ => .ok _

theorem readThresholds_readsTable : ReadsTable thresholdsFields readThresholds := by
  intro members
  refine .field (flagField_reads rfl _) fun _ _ => ?_
  refine .field (wholeField_reads rfl _) fun _ _ => ?_
  refine .field (wholeField_reads rfl _) fun _ _ => ?_
  exact .field (numberField_reads rfl _) fun _ _ => .ok _

theorem readCredentials_reads (listed : table.find? key = some (.optional credentialsFields)) :
    Reads (HasShape (.optional credentialsFields) members key) (readCredentials (members.find? key))
      (readCredentials ((knownMembers table members).find? key)) := by
  refine .optional listed (fun part => ?_) fun found noObject => ?_
  · refine .field (textField_reads rfl _) fun _ _ => ?_
    exact .field (textField_reads rfl _) fun _ _ => .ok _
  · rw [readCredentials.eq_def]
    split
    · next part => exact absurd rfl (noObject part)
    · rfl

theorem readForm_reads (listed : table.find? key = some (.optional formFields)) :
    Reads (HasShape (.optional formFields) members key) (readForm (members.find? key))
      (readForm ((knownMembers table members).find? key)) := by
  refine .optional listed (fun part => ?_) fun found noObject => ?_
  · refine .entries readFormField_readsTable rfl fun _ => ?_
    exact .field (flagField_reads rfl _) fun _ _ => .ok _
  · rw [readForm.eq_def]
    split
    · next part => exact absurd rfl (noObject part)
    · rfl

/-- The extraction is taken out first, and it is read behind the checks. -/
theorem readRequest_readsTable : ReadsTable requestFields readRequest := by
  intro members
  refine .field (readMethod_reads rfl) fun _ _ => ?_
  refine .section rfl (fun conforms => .of_conforms conforms (by simp)) fun _ found => ?_
  refine .field (textField_reads rfl _) fun _ _ => ?_
  refine .field (textField_reads rfl _) fun _ _ => ?_
  refine .field (textField_reads rfl _) fun _ _ => ?_
  refine .field (numberField_reads rfl _) fun _ _ => ?_
  refine .field (choiceField_reads rfl (by decide)) fun _ _ => ?_
  refine .field (textField_reads rfl _) fun _ _ => ?_
  refine .entries readHeader_readsTable rfl fun _ => ?_
  refine .entries readCheck_readsTable rfl fun _ => ?_
  refine .field (readExtraction_readsTable.part found) fun _ _ => ?_
  refine .field (readCredentials_reads rfl) fun _ _ => ?_
  exact .field (readForm_reads rfl) fun _ _ => .ok _

/-! The readers of profiles. -/

theorem readVariable_object_reads (profile : String) (before : Entries String)
    (members : Entries Json) :
    Reads (HasShape .text members "key" ∧
        ∀ name, field? members "key" = some (.string name) → Text.trim name ≠ "" →
          HasShape .text members "value")
      (readVariable profile before (.object members))
      (readVariable profile before (.object (knownMembers Shape.variableFields members))) := by
  refine .bind (textField_reads rfl _) fun given read => ?_
  simp only []
  by_cases empty : Text.trim given = ""
  · rw [if_pos empty, if_pos empty]
    refine ⟨⟨fun _ name found named => ?_, fun _ => ⟨before, rfl⟩⟩, rfl⟩
    rcases textField_eq_ok_iff.mp read with ⟨missing, -⟩ | same
    · rw [missing] at found
      cases found
    · rw [same] at found
      cases found
      exact absurd empty named
  · rw [if_neg empty, if_neg empty]
    have found : field? members "key" = some (.string given) := by
      rcases textField_eq_ok_iff.mp read with ⟨-, rfl⟩ | found
      · exact absurd rfl empty
      · exact found
    have value : Reads (HasShape .text members "value") (textField members "value" "")
        (textField (knownMembers Shape.variableFields members) "value" "") := textField_reads rfl _
    refine (value.map _).congr ⟨fun shaped _ _ _ => shaped, fun shaped => shaped given found empty⟩

theorem readVariable_reads (profile : String) (before : Entries String) (item : Json) :
    Reads (Shape.variableEntry.Accepts item) (readVariable profile before item)
      (readVariable profile before (Shape.variableEntry.known item)) := by
  cases item with
  | object members =>
      refine (readVariable_object_reads profile before members).congr ?_
      simp [Shape.variableEntry]
  | _ =>
      refine ⟨⟨?_, ?_⟩, rfl⟩
      · rintro ⟨_, ⟨⟩⟩
      · rintro ⟨_, ⟨⟩, -⟩

theorem readProfile_reads (profile : String) (entries : Json) :
    Reads ((Shape.list .variableEntry).Accepts entries) (readProfile profile entries)
      (readProfile profile ((Shape.list .variableEntry).known entries)) := by
  cases entries with
  | array items =>
      refine ((Reads.foldlM (readVariable_reads profile) [] items).map _).congr ?_
      simp [Shape.list]
  | _ =>
      refine ⟨⟨?_, ?_⟩, rfl⟩
      · rintro ⟨_, ⟨⟩⟩
      · rintro ⟨_, ⟨⟩, -⟩

theorem sectionField_known_table (listed : table.find? key = some (.table shape))
    (members : Entries Json) :
    sectionField (knownMembers table members) key =
      (sectionField members key).map (List.map fun (name, value) => (name, shape.known value)) := by
  rw [sectionField, field?_knownMembers listed Shape.table_known_eq_null, sectionField]
  cases field? members key with
  | none => rfl
  | some value => cases value <;> rfl

theorem readProfiles_reads (listed : table.find? "envVars" = some (.table (.list .variableEntry))) :
    Reads (HasShape (.table (.list .variableEntry)) members "envVars") (readProfiles members)
      (readProfiles (knownMembers table members)) := by
  refine .later (sectionField_known_table listed members)
    (fun shaped => exists_section shaped fun _ accepted => accepted.imp fun _ => And.left)
    fun profiles found => ?_
  have each (profile : String × Json) :=
    (readProfile_reads profile.1 profile.2).map fun merged => (profile.1, merged)
  exact (Reads.mapM each profiles).congr (hasShape_table_iff found).symm

theorem hasKey_knownMembers (listed : table.find? key = some shape) (members : Entries Json) :
    (knownMembers table members).hasKey key = members.hasKey key := by
  have found := find?_knownMembers listed members
  rw [Entries.find?, Entries.find?] at found
  rw [Entries.hasKey, Entries.hasKey, found, Option.isSome_map]

theorem missing_reads (missing : ¬ members.hasKey key = true) (value : α) :
    Reads (HasShape shape members key) (pure value) (pure value) := by
  rw [Entries.hasKey, Option.not_isSome_iff_eq_none] at missing
  refine ⟨⟨fun _ value found => ?_, fun _ => ⟨value, rfl⟩⟩, rfl⟩
  rw [field?, Entries.find?, missing] at found
  cases found

/-- The two sections are taken out first, and they are read in their places among the lists. -/
theorem readPlanFields_readsTable : ReadsTable planFields readPlanFields := by
  intro members
  refine .field (readLoadKind_reads rfl) fun _ _ => ?_
  refine .section rfl (fun conforms => .of_conforms conforms (by simp)) fun _ thinkTimeFound => ?_
  refine .section rfl (fun conforms => .of_conforms conforms (by simp)) fun _ thresholdsFound => ?_
  refine .field (textField_reads rfl _) fun _ _ => ?_
  refine .field (textField_reads rfl _) fun _ _ => ?_
  refine .field (wholeField_reads rfl _) fun _ _ => ?_
  refine .field (textField_reads rfl _) fun _ _ => ?_
  refine .field (choiceField_reads rfl (by decide)) fun _ _ => ?_
  refine .field (textField_reads rfl _) fun _ _ => ?_
  refine .field (wholeField_reads rfl _) fun _ _ => ?_
  refine .entries readStage_readsTable rfl fun _ => ?_
  refine .entries readScenario_readsTable rfl fun _ => ?_
  refine .field (flagField_reads rfl _) fun _ _ => ?_
  refine .field (readThinkTime_readsTable.part thinkTimeFound) fun _ _ => ?_
  refine .entries readRequest_readsTable rfl fun _ => ?_
  refine .field (readThresholds_readsTable.part thresholdsFound) fun _ _ => ?_
  rw [hasKey_knownMembers rfl]
  simp only []
  split
  · exact .field (readProfiles_reads rfl) fun _ _ => .ok _
  · next missing => exact .field (missing_reads missing _) fun _ _ => .ok _

/-- A plan is read from exactly the objects whose known fields have their shapes, at every depth, and it is
the same plan without what is unknown. -/
theorem readPlan_iff_accepts (document : Json) :
    ((∃ plan, readPlan document = .ok plan) ↔ (Shape.object planFields).Accepts document) ∧
      readPlan ((Shape.object planFields).known document) = readPlan document := by
  cases document with
  | object members =>
      have reads := readPlanFields_readsTable members
      refine ⟨reads.succeeds.trans ?_, reads.same⟩
      simp [Shape.object]
  | _ =>
      refine ⟨⟨?_, ?_⟩, rfl⟩
      · rintro ⟨_, ⟨⟩⟩
      · rintro ⟨_, ⟨⟩, -⟩

example (value : Json) :
    knownMembers planFields [("colour", value), ("vus", .whole 3)] = [("vus", .whole 3)] := rfl

end LoadScript.Document
