import Mathlib.Data.List.Forall2
import LoadScript.Proofs.Entries
import LoadScript.Proofs.Plan.Fields

/-!
Fields without a value. A field that is null is read like one that is missing, at every depth of a document.
Only the profiles are told apart: without them a plan has the default ones, and where they are null it has none.
-/

namespace LoadScript

namespace Json

inductive MembersLose (related : Json → Json → Prop) : Entries Json → Entries Json → Prop where
  | nil : MembersLose related [] []
  | keep {key : String} {value left : Json} {members rest : Entries Json}
      (loses : related value left) (others : MembersLose related members rest) :
      MembersLose related ((key, value) :: members) ((key, left) :: rest)
  | drop {key : String} {members rest : Entries Json} (apart : key ∉ members.map Prod.fst)
      (others : MembersLose related members rest) :
      MembersLose related ((key, .null) :: members) rest

/-- What is left of a value when members that are null are taken out of its objects, at any depth. -/
inductive LosesNulls : Json → Json → Prop where
  | same (value : Json) : LosesNulls value value
  | array {items rest : List Json} (each : List.Forall₂ LosesNulls items rest) :
      LosesNulls (.array items) (.array rest)
  | object {members rest : Entries Json} (each : MembersLose LosesNulls members rest) :
      LosesNulls (.object members) (.object rest)

variable {members rest : Entries Json} {key : String}

theorem MembersLose.same (members : Entries Json) : MembersLose LosesNulls members members := by
  induction members with
  | nil => exact .nil
  | cons member members ih => exact .keep (.same _) ih

theorem losesNulls_of_null (before after : Entries Json) (apart : key ∉ after.map Prod.fst) :
    LosesNulls (.object (before ++ (key, .null) :: after)) (.object (before ++ after)) := by
  refine .object ?_
  induction before with
  | nil => exact .drop apart (.same after)
  | cons member before ih => exact .keep (.same _) ih

/-- What is taken out of a list of members is looked up in vain, or it was null. -/
theorem MembersLose.find? {related : Json → Json → Prop} (loses : MembersLose related members rest)
    (key : String) :
    (members.find? key = none ∨ members.find? key = some .null) ∧ rest.find? key = none ∨
      ∃ value left, members.find? key = some value ∧ rest.find? key = some left ∧
        related value left := by
  induction loses with
  | nil => exact .inl ⟨.inl rfl, rfl⟩
  | @keep name value left members rest related others ih =>
      by_cases same : key = name
      · subst same
        exact .inr ⟨value, left, List.lookup_cons_self, List.lookup_cons_self, related⟩
      · rw [Entries.find?_cons_of_ne same, Entries.find?_cons_of_ne same]
        exact ih
  | @drop name members rest apart others ih =>
      by_cases same : key = name
      · subst same
        have missing : Entries.find? members key = none := Entries.find?_eq_none_iff.mpr apart
        rcases ih with ⟨-, gone⟩ | ⟨value, left, found, -⟩
        · exact .inl ⟨.inr List.lookup_cons_self, gone⟩
        · rw [missing] at found
          cases found
      · rw [Entries.find?_cons_of_ne same]
        exact ih

end Json

namespace Document

open Json (LosesNulls MembersLose)

variable {α β γ δ : Type} {members rest : Entries Json} {key : String}

def Follows (related : α → β → Prop) (first : Read α) (second : Read β) : Prop :=
  ∀ value, first = .ok value → ∃ result, second = .ok result ∧ related value result

namespace Follows

variable {related : α → β → Prop} {results : γ → δ → Prop}

theorem same (reading : Read α) : Follows Eq reading reading := fun value read => ⟨value, read, rfl⟩

theorem ok {value : α} {result : β} (holds : related value result) :
    Follows related (.ok value) (.ok result) := by
  rintro _ ⟨⟩
  exact ⟨result, rfl, holds⟩

theorem of_error (fault : LoadError) (second : Read β) : Follows related (.error fault) second := by
  rintro _ ⟨⟩

theorem bind {first : Read α} {second : Read β} {next : α → Read γ} {nextSecond : β → Read δ}
    (follows : Follows related first second)
    (others : ∀ value result, related value result → Follows results (next value) (nextSecond result)) :
    Follows results (first >>= next) (second >>= nextSecond) := by
  intro final read
  obtain ⟨value, firstRead, nextRead⟩ := Outcome.bind_eq_ok.mp read
  obtain ⟨result, secondRead, holds⟩ := follows value firstRead
  rw [secondRead]
  exact others value result holds final nextRead

theorem field {first second : Read α} {next : α → Read γ} {nextSecond : α → Read δ}
    (follows : Follows Eq first second)
    (others : ∀ value, Follows results (next value) (nextSecond value)) :
    Follows results (first >>= next) (second >>= nextSecond) := by
  refine follows.bind ?_
  rintro value _ rfl
  exact others value

theorem mapM {first : α → Read γ} {second : β → Read δ} {inputs : List α} {others : List β}
    (each : ∀ input other, related input other → Follows results (first input) (second other))
    (pairs : List.Forall₂ related inputs others) :
    Follows (List.Forall₂ results) (inputs.mapM first) (others.mapM second) := by
  induction pairs with
  | nil => exact ok .nil
  | cons pair _ ih =>
      rw [List.mapM_cons, List.mapM_cons]
      refine (each _ _ pair).bind fun value result holds => ?_
      refine ih.bind fun values results hold => ?_
      exact ok (.cons holds hold)

theorem mapM_eq {first : α → Read γ} {second : β → Read γ} {inputs : List α} {others : List β}
    (each : ∀ input other, related input other → Follows Eq (first input) (second other))
    (pairs : List.Forall₂ related inputs others) :
    Follows Eq (inputs.mapM first) (others.mapM second) := by
  have follows := mapM each pairs
  rwa [List.forall₂_eq_eq_eq] at follows

theorem foldlM {first : γ → α → Read γ} {second : γ → β → Read γ} {inputs : List α} {others : List β}
    (each : ∀ before input other, related input other →
      Follows Eq (first before input) (second before other))
    (pairs : List.Forall₂ related inputs others) (start : γ) :
    Follows Eq (inputs.foldlM first start) (others.foldlM second start) := by
  induction pairs generalizing start with
  | nil => exact same _
  | cons pair _ ih =>
      rw [List.foldlM_cons, List.foldlM_cons]
      exact (each start _ _ pair).field ih

end Follows

def PassesNulls (reader : Entries Json → Read α) : Prop :=
  ∀ {members rest}, MembersLose LosesNulls members rest → Follows Eq (reader members) (reader rest)

/-! The readers of single fields. -/

theorem field?_of_find?_null (missing : members.find? key = none ∨ members.find? key = some .null) :
    field? members key = none := field?_eq_none_iff.mpr missing

/-- A field that is there before and after keeps its kind. -/
theorem field?_cases (loses : MembersLose LosesNulls members rest) (key : String) :
    field? rest key = field? members key ∨
      (∃ items left, field? members key = some (.array items) ∧
        field? rest key = some (.array left) ∧ List.Forall₂ LosesNulls items left) ∨
      ∃ part left, field? members key = some (.object part) ∧
        field? rest key = some (.object left) ∧ MembersLose LosesNulls part left := by
  rcases loses.find? key with ⟨missing, gone⟩ | ⟨value, left, found, kept, loses⟩
  · left
    rw [field?_of_find?_null missing, field?_of_find?_null (.inl gone)]
  · rw [field?, field?, found, kept]
    cases loses with
    | same => exact .inl rfl
    | array each => exact .inr (.inl ⟨_, _, rfl, rfl, each⟩)
    | object each => exact .inr (.inr ⟨_, _, rfl, rfl, each⟩)

theorem follows_of_field? {first second : Read α} (loses : MembersLose LosesNulls members rest)
    (key : String)
    (alike : field? rest key = field? members key → second = first)
    (noList : ∀ items, field? members key = some (.array items) → ∃ fault, first = .error fault)
    (noObject : ∀ part, field? members key = some (.object part) → ∃ fault, first = .error fault) :
    Follows Eq first second := by
  rcases field?_cases loses key with same | ⟨items, -, found, -⟩ | ⟨part, -, found, -⟩
  · rw [alike same]
    exact .same first
  · obtain ⟨fault, refused⟩ := noList items found
    rw [refused]
    exact .of_error fault second
  · obtain ⟨fault, refused⟩ := noObject part found
    rw [refused]
    exact .of_error fault second

theorem entry_follows {item left : Json} (loses : LosesNulls item left) :
    Follows (MembersLose LosesNulls) (entry key item) (entry key left) := by
  cases loses with
  | same =>
      intro part read
      exact ⟨part, read, .same part⟩
  | array each => exact .of_error _ _
  | object each => exact .ok each

section

variable (loses : MembersLose LosesNulls members rest) (key : String)
include loses

theorem textField_follows (default : String) :
    Follows Eq (textField members key default) (textField rest key default) := by
  refine follows_of_field? loses key (fun alike => ?_) (fun items found => ?_) (fun part found => ?_)
  · rw [textField, alike, textField]
  · exact ⟨_, by rw [textField, found]⟩
  · exact ⟨_, by rw [textField, found]⟩

theorem flagField_follows (default : Bool) :
    Follows Eq (flagField members key default) (flagField rest key default) := by
  refine follows_of_field? loses key (fun alike => ?_) (fun items found => ?_) (fun part found => ?_)
  · rw [flagField, alike, flagField]
  · exact ⟨_, by rw [flagField, found]⟩
  · exact ⟨_, by rw [flagField, found]⟩

theorem wholeField_follows (default : Int) :
    Follows Eq (wholeField members key default) (wholeField rest key default) := by
  refine follows_of_field? loses key (fun alike => ?_) (fun items found => ?_) (fun part found => ?_)
  · rw [wholeField, alike, wholeField]
  · exact ⟨_, by rw [wholeField, found]⟩
  · exact ⟨_, by rw [wholeField, found]⟩

theorem numberField_follows (default : Double) :
    Follows Eq (numberField members key default) (numberField rest key default) := by
  refine follows_of_field? loses key (fun alike => ?_) (fun items found => ?_) (fun part found => ?_)
  · rw [numberField, alike, numberField]
  · exact ⟨_, by rw [numberField, found]⟩
  · exact ⟨_, by rw [numberField, found]⟩

theorem choiceField_follows (choices : List α) (name : α → String) (default : α) :
    Follows Eq (choiceField choices name members key default)
      (choiceField choices name rest key default) :=
  (textField_follows loses key (name default)).field fun _ => .same _

/-! The readers of sections and lists. -/

theorem sectionField_follows :
    Follows (MembersLose LosesNulls) (sectionField members key) (sectionField rest key) := by
  rw [sectionField, sectionField]
  rcases field?_cases loses key with same | ⟨items, left, found, kept, -⟩ | ⟨part, left, found, kept, loses⟩
  · rw [same]
    intro part read
    exact ⟨part, read, .same part⟩
  · rw [found]
    exact .of_error _ _
  · rw [found, kept]
    exact .ok loses

theorem entriesField_follows :
    Follows (List.Forall₂ (MembersLose LosesNulls)) (entriesField members key)
      (entriesField rest key) := by
  rw [entriesField, entriesField]
  rcases field?_cases loses key with same | ⟨items, left, found, kept, each⟩ | ⟨part, left, found, kept, -⟩
  · rw [same]
    intro parts read
    exact ⟨parts, read, List.forall₂_same.mpr fun part _ => .same part⟩
  · rw [found, kept]
    exact .mapM (fun _ _ => entry_follows) each
  · rw [found]
    exact .of_error _ _

theorem Follows.entries {reader : Entries Json → Read α} {results : γ → δ → Prop}
    {next : List α → Read γ} {nextSecond : List α → Read δ} (passes : PassesNulls reader)
    (others : ∀ values, Follows results (next values) (nextSecond values)) :
    Follows results (entriesField members key >>= fun parts => parts.mapM reader >>= next)
      (entriesField rest key >>= fun parts => parts.mapM reader >>= nextSecond) := by
  refine (entriesField_follows loses key).bind fun parts left each => ?_
  exact (Follows.mapM_eq (fun _ _ loses => passes loses) each).field others

theorem Follows.optional {reader : Option Json → Read (Option α)}
    (ofObject : PassesNulls fun part => reader (some (.object part)))
    (otherwise : ∀ found, (∀ part, found ≠ some (.object part)) → reader found = .ok none) :
    Follows Eq (reader (members.find? key)) (reader (rest.find? key)) := by
  rcases loses.find? key with ⟨missing, gone⟩ | ⟨value, left, found, kept, loses⟩
  · have unread : reader (members.find? key) = .ok none := by
      refine otherwise _ fun part found => ?_
      rcases missing with missing | missing <;>
        · rw [missing] at found
          cases found
    rw [unread, gone, otherwise _ (by simp)]
    exact .same _
  · rw [found, kept]
    cases loses with
    | same => exact .same _
    | array each =>
        rw [otherwise _ (by simp), otherwise _ (by simp)]
        exact .same _
    | object each => exact ofObject each

end

/-! The readers of the parts of a plan, field by field. -/

theorem readMethod_follows (loses : MembersLose LosesNulls members rest) :
    Follows Eq (readMethod members) (readMethod rest) :=
  .field (textField_follows loses _ _) fun _ => .same _

theorem readHeader_passesNulls : PassesNulls readHeader := fun loses =>
  .field (textField_follows loses _ _) fun _ =>
    .field (textField_follows loses _ _) fun _ => .same _

theorem readCheck_passesNulls : PassesNulls readCheck := fun loses =>
  .field (textField_follows loses _ _) fun _ =>
    .field (textField_follows loses _ _) fun _ => .same _

theorem readExtraction_passesNulls : PassesNulls readExtraction := fun loses =>
  .field (flagField_follows loses _ _) fun _ =>
    .field (textField_follows loses _ _) fun _ =>
      .field (textField_follows loses _ _) fun _ => .same _

theorem readFormField_passesNulls : PassesNulls readFormField := fun loses =>
  .field (textField_follows loses _ _) fun _ =>
    .field (textField_follows loses _ _) fun _ =>
      .field (flagField_follows loses _ _) fun _ => .same _

theorem readStage_passesNulls : PassesNulls readStage := fun loses =>
  .field (textField_follows loses _ _) fun _ =>
    .field (wholeField_follows loses _ _) fun _ => .same _

theorem readScenario_passesNulls : PassesNulls readScenario := by
  intro members rest loses
  refine .field (textField_follows loses _ _) fun _ => ?_
  refine .field (choiceField_follows loses _ _ _ _) fun _ => ?_
  refine .field (textField_follows loses _ _) fun _ => ?_
  refine .field (wholeField_follows loses _ _) fun _ => ?_
  refine .field (textField_follows loses _ _) fun _ => ?_
  exact .field (textField_follows loses _ _) fun _ => .same _

theorem readThinkTime_passesNulls : PassesNulls readThinkTime := by
  intro members rest loses
  refine .field (choiceField_follows loses _ _ _ _) fun _ => ?_
  refine .field (numberField_follows loses _ _) fun _ => ?_
  refine .field (numberField_follows loses _ _) fun _ => ?_
  exact .field (numberField_follows loses _ _) fun _ => .same _

theorem readThresholds_passesNulls : PassesNulls readThresholds := by
  intro members rest loses
  refine .field (flagField_follows loses _ _) fun _ => ?_
  refine .field (wholeField_follows loses _ _) fun _ => ?_
  refine .field (wholeField_follows loses _ _) fun _ => ?_
  exact .field (numberField_follows loses _ _) fun _ => .same _

theorem readCredentials_follows (loses : MembersLose LosesNulls members rest) (key : String) :
    Follows Eq (readCredentials (members.find? key)) (readCredentials (rest.find? key)) := by
  refine .optional loses key (fun loses => ?_) fun found noObject => ?_
  · refine .field (textField_follows loses _ _) fun _ => ?_
    exact .field (textField_follows loses _ _) fun _ => .same _
  · rw [readCredentials.eq_def]
    split
    · next part => exact absurd rfl (noObject part)
    · rfl

theorem readForm_follows (loses : MembersLose LosesNulls members rest) (key : String) :
    Follows Eq (readForm (members.find? key)) (readForm (rest.find? key)) := by
  refine .optional loses key (fun loses => ?_) fun found noObject => ?_
  · refine .entries loses _ readFormField_passesNulls fun _ => ?_
    exact .field (flagField_follows loses _ _) fun _ => .same _
  · rw [readForm.eq_def]
    split
    · next part => exact absurd rfl (noObject part)
    · rfl

theorem readRequest_passesNulls : PassesNulls readRequest := by
  intro members rest loses
  refine .field (readMethod_follows loses) fun _ => ?_
  refine .bind (sectionField_follows loses _) fun _ _ extractionLoses => ?_
  refine .field (textField_follows loses _ _) fun _ => ?_
  refine .field (textField_follows loses _ _) fun _ => ?_
  refine .field (textField_follows loses _ _) fun _ => ?_
  refine .field (numberField_follows loses _ _) fun _ => ?_
  refine .field (choiceField_follows loses _ _ _ _) fun _ => ?_
  refine .field (textField_follows loses _ _) fun _ => ?_
  refine .entries loses _ readHeader_passesNulls fun _ => ?_
  refine .entries loses _ readCheck_passesNulls fun _ => ?_
  refine .field (readExtraction_passesNulls extractionLoses) fun _ => ?_
  refine .field (readCredentials_follows loses _) fun _ => ?_
  exact .field (readForm_follows loses _) fun _ => .same _

/-! The readers of profiles. -/

theorem readVariable_follows (profile : String) (before : Entries String) {item left : Json}
    (loses : LosesNulls item left) :
    Follows Eq (readVariable profile before item) (readVariable profile before left) := by
  cases loses with
  | same => exact .same _
  | array each => exact .of_error _ _
  | object each =>
      refine .field (textField_follows each _ _) fun given => ?_
      simp only []
      split
      · exact .same _
      · exact .field (textField_follows each _ _) fun _ => .same _

theorem readProfile_follows (profile : String) {entries left : Json}
    (loses : LosesNulls entries left) :
    Follows Eq (readProfile profile entries) (readProfile profile left) := by
  cases loses with
  | same => exact .same _
  | array each =>
      refine .field (.foldlM ?_ each []) fun _ => .same _
      intro before item left loses
      exact readVariable_follows profile before loses
  | object each => exact .of_error _ _

/-- A profile that is null is refused, so that none is taken out. -/
theorem readProfiles_follows (loses : MembersLose LosesNulls members rest) :
    Follows Eq (readProfiles members) (readProfiles rest) := by
  refine (sectionField_follows loses "envVars").bind fun profiles left loses => ?_
  induction loses with
  | nil => exact .same _
  | keep loses others ih =>
      rw [List.mapM_cons, List.mapM_cons]
      refine .field (.field (readProfile_follows _ loses) fun _ => .same _) fun _ => ?_
      exact ih.field fun _ => .same _
  | drop apart others ih =>
      rw [List.mapM_cons]
      exact .of_error _ _

theorem readLoadKind_follows (loses : MembersLose LosesNulls members rest) :
    Follows Eq (readLoadKind members) (readLoadKind rest) := by
  refine .field (textField_follows loses _ _) fun given => ?_
  split
  · exact .same _
  · exact .same _
  · exact choiceField_follows loses _ _ _ _

def LosesProfiles : Json → Json → Prop
  | .object members, .object rest =>
      Entries.find? members "envVars" = some .null ∧ Entries.find? rest "envVars" = none
  | _, _ => False

def IsKept (lost : Prop) (plan left : Plan) : Prop :=
  (¬ lost → left = plan) ∧
    (lost → plan.profiles = [] ∧ left = { plan with profiles := ({} : Plan).profiles })

theorem readProfiles_of_missing (missing : field? members "envVars" = none) :
    readProfiles members = .ok [] := by
  rw [readProfiles, sectionField, missing]
  rfl

/-- The readings of the profiles, by the way in which the field loses nulls. -/
theorem profiles_cases (loses : MembersLose LosesNulls members rest) :
    (LosesProfiles (.object members) (.object rest) ∧ members.hasKey "envVars" = true ∧
        rest.hasKey "envVars" = false ∧ readProfiles members = .ok []) ∨
      ¬ LosesProfiles (.object members) (.object rest) ∧
        members.hasKey "envVars" = rest.hasKey "envVars" := by
  rw [LosesProfiles, Entries.hasKey, Entries.hasKey]
  rcases loses.find? "envVars" with ⟨missing | null, gone⟩ | ⟨value, left, found, kept, -⟩
  · rw [Entries.find?] at missing gone
    right
    constructor
    · rintro ⟨null, -⟩
      rw [Entries.find?, missing] at null
      cases null
    · rw [missing, gone]
  · left
    refine ⟨⟨null, gone⟩, ?_, ?_, ?_⟩
    · rw [Entries.find?] at null
      rw [null]
      rfl
    · rw [Entries.find?] at gone
      rw [gone]
      rfl
    · exact readProfiles_of_missing (field?_of_find?_null (.inr null))
  · right
    constructor
    · rintro ⟨-, gone⟩
      rw [kept] at gone
      cases gone
    · rw [Entries.find?] at found kept
      rw [found, kept]
      rfl

theorem readPlanFields_follows (loses : MembersLose LosesNulls members rest) :
    Follows (IsKept (LosesProfiles (.object members) (.object rest))) (readPlanFields members)
      (readPlanFields rest) := by
  refine .field (readLoadKind_follows loses) fun _ => ?_
  refine .bind (sectionField_follows loses _) fun _ _ thinkTimeLoses => ?_
  refine .bind (sectionField_follows loses _) fun _ _ thresholdsLose => ?_
  refine .field (textField_follows loses _ _) fun _ => ?_
  refine .field (textField_follows loses _ _) fun _ => ?_
  refine .field (wholeField_follows loses _ _) fun _ => ?_
  refine .field (textField_follows loses _ _) fun _ => ?_
  refine .field (choiceField_follows loses _ _ _ _) fun _ => ?_
  refine .field (textField_follows loses _ _) fun _ => ?_
  refine .field (wholeField_follows loses _ _) fun _ => ?_
  refine .entries loses _ readStage_passesNulls fun _ => ?_
  refine .entries loses _ readScenario_passesNulls fun _ => ?_
  refine .field (flagField_follows loses _ _) fun _ => ?_
  refine .field (readThinkTime_passesNulls thinkTimeLoses) fun _ => ?_
  refine .entries loses _ readRequest_passesNulls fun _ => ?_
  refine .field (readThresholds_passesNulls thresholdsLose) fun _ => ?_
  rcases profiles_cases loses with ⟨lost, present, gone, empty⟩ | ⟨notLost, alike⟩
  · rw [present, gone, if_pos rfl, empty]
    refine .ok ⟨fun kept => absurd lost kept, fun _ => ?_⟩
    exact ⟨rfl, rfl⟩
  · rw [alike]
    simp only []
    split
    · refine .field (readProfiles_follows loses) fun _ => ?_
      exact .ok ⟨fun _ => rfl, fun lost => absurd lost notLost⟩
    · exact .ok ⟨fun _ => rfl, fun lost => absurd lost notLost⟩

theorem not_losesProfiles_same (document : Json) : ¬ LosesProfiles document document := by
  cases document with
  | object members =>
      rintro ⟨null, gone⟩
      rw [null] at gone
      cases gone
  | _ => exact id

/-- When members that are null are taken out of a document, at any depth, it is read as the same plan. Only
profiles that are null are not like missing ones: the plan has none, and it has the default ones when the member
is taken out. -/
theorem readPlan_of_losesNulls {document rest : Json} {plan : Plan}
    (loses : LosesNulls document rest) (read : readPlan document = .ok plan) :
    (¬ LosesProfiles document rest → readPlan rest = .ok plan) ∧
      (LosesProfiles document rest → plan.profiles = [] ∧
        readPlan rest = .ok { plan with profiles := ({} : Plan).profiles }) := by
  cases loses with
  | same => exact ⟨fun _ => read, fun lost => absurd lost (not_losesProfiles_same document)⟩
  | array each => cases read
  | object each =>
      obtain ⟨left, leftRead, kept, changed⟩ := readPlanFields_follows each plan read
      constructor
      · intro notLost
        rw [← kept notLost]
        exact leftRead
      · intro lost
        obtain ⟨empty, same⟩ := changed lost
        rw [← same]
        exact ⟨empty, leftRead⟩

theorem readPlan_of_losesNulls_header :
    readPlan (.object [("vus", .null), ("apis", .array [.object [
        ("headers", .array [.object [("key", .string "A"), ("value", .null)]]), ("form", .null)]])]) =
      readPlan (.object [("apis", .array [.object [
        ("headers", .array [.object [("key", .string "A")]])]])]) := by
  have header : LosesNulls (.object [("key", .string "A"), ("value", .null)])
      (.object [("key", .string "A")]) :=
    Json.losesNulls_of_null [("key", .string "A")] [] List.not_mem_nil
  have request : LosesNulls
      (.object [("headers", .array [.object [("key", .string "A"), ("value", .null)]]), ("form", .null)])
      (.object [("headers", .array [.object [("key", .string "A")]])]) :=
    .object (.keep (.array (.cons header .nil)) (.drop List.not_mem_nil .nil))
  have plan : LosesNulls
      (.object [("vus", .null), ("apis", .array [.object [
        ("headers", .array [.object [("key", .string "A"), ("value", .null)]]), ("form", .null)]])])
      (.object [("apis", .array [.object [("headers", .array [.object [("key", .string "A")]])]])]) :=
    .object (.drop (by decide) (.keep (.array (.cons request .nil)) .nil))
  have kept := (readPlan_of_losesNulls plan rfl).1
  symm
  apply kept
  rintro ⟨null, -⟩
  cases null

/-- Profiles that are null are none, while missing ones are the default ones. -/
theorem readPlan_nullProfiles :
    LosesNulls (.object [("envVars", .null)]) (.object []) ∧
      readPlan (.object [("envVars", .null)]) = .ok { profiles := [] } ∧
      readPlan (.object []) = .ok { profiles := [("dev", []), ("staging", []), ("prod", [])] } :=
  ⟨.object (.drop List.not_mem_nil .nil), rfl, rfl⟩

end Document

end LoadScript
