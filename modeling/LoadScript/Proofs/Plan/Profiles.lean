import LoadScript.Proofs.Entries
import LoadScript.Proofs.Plan.Loaded

/-!
The variables of a profile. The entries of its list are merged: a key stands where it was written first, and has
the value that was written last.
-/

namespace LoadScript.Document

open Outcome (bind_eq_ok pure_eq_ok)

def membersOf : Option Json → Entries Json
  | some (.object members) => members
  | _ => []

def itemsOf : Option Json → List Json
  | some (.array items) => items
  | _ => []

def textOf : Option Json → String
  | some (.string text) => text
  | _ => ""

def memberText (key : String) (entry : Json) : String :=
  textOf ((membersOf (some entry)).find? key)

def entryKey (entry : Json) : String := Text.trim (memberText "key" entry)

def entryValue (entry : Json) : String := memberText "value" entry

def IsLastValue (entries : List Json) (key value : String) : Prop :=
  ∃ before entry after, entries = before ++ entry :: after ∧ entryKey entry = key ∧
    entryValue entry = value ∧ ∀ later ∈ after, entryKey later ≠ key

structure IsMerged (entries : List Json) (merged : Entries String) : Prop where
  present : ∀ key, key ∈ merged.map Prod.fst ↔ key ≠ "" ∧ key ∈ entries.map entryKey
  ordered : (merged.map Prod.fst).Pairwise fun first second =>
    (entries.map entryKey).idxOf first < (entries.map entryKey).idxOf second
  last : ∀ key value, merged.find? key = some value → IsLastValue entries key value

theorem isMerged_nil : IsMerged [] [] := by
  constructor
  · simp
  · exact List.Pairwise.nil
  · intro key value found
    cases found

/-! One entry more. -/

section

variable {entries : List Json} {entry : Json} {merged : Entries String} {key value : String}

theorem IsLastValue.append (last : IsLastValue entries key value) (other : entryKey entry ≠ key) :
    IsLastValue (entries ++ [entry]) key value := by
  obtain ⟨before, final, after, rfl, hasKey, hasValue, noLater⟩ := last
  refine ⟨before, final, after ++ [entry], by simp, hasKey, hasValue, ?_⟩
  rw [List.forall_mem_append, List.forall_mem_singleton]
  exact ⟨noLater, other⟩

theorem isLastValue_self (entries : List Json) (entry : Json) :
    IsLastValue (entries ++ [entry]) (entryKey entry) (entryValue entry) :=
  ⟨entries, entry, [], rfl, rfl, rfl, by simp⟩

/-- The keys that were there are first written where they were. -/
theorem IsMerged.ordered_append (isMerged : IsMerged entries merged) (entry : Json) :
    (merged.map Prod.fst).Pairwise fun first second =>
      ((entries ++ [entry]).map entryKey).idxOf first <
        ((entries ++ [entry]).map entryKey).idxOf second := by
  refine isMerged.ordered.imp_of_mem ?_
  intro first second firstIn secondIn before
  have firstWritten := ((isMerged.present first).mp firstIn).2
  have secondWritten := ((isMerged.present second).mp secondIn).2
  rwa [List.map_append, List.idxOf_append, List.idxOf_append, if_pos firstWritten, if_pos secondWritten]

theorem IsMerged.skip (isMerged : IsMerged entries merged) (blank : entryKey entry = "") :
    IsMerged (entries ++ [entry]) merged := by
  constructor
  · intro key
    rw [isMerged.present, List.map_append, List.mem_append, List.map_singleton, List.mem_singleton, blank]
    constructor
    · exact fun ⟨named, written⟩ => ⟨named, .inl written⟩
    · exact fun ⟨named, written⟩ => ⟨named, written.resolve_right named⟩
  · exact isMerged.ordered_append entry
  · intro key value found
    have named := ((isMerged.present key).mp (List.mem_map_of_mem (Entries.mem_of_find? found))).1
    exact (isMerged.last key value found).append (by rw [blank]; exact Ne.symm named)

theorem IsMerged.put (isMerged : IsMerged entries merged) (named : entryKey entry ≠ "") :
    IsMerged (entries ++ [entry]) (merged.put (entryKey entry) (entryValue entry)) := by
  have keys := Entries.keys_put (entryKey entry) (entryValue entry) merged
  constructor
  · intro key
    have known : key ∈ (merged.put (entryKey entry) (entryValue entry)).map Prod.fst ↔
        key ∈ merged.map Prod.fst ∨ key = entryKey entry := by
      rw [keys]
      split
      · next found => exact ⟨.inl, fun either => either.elim id fun same => same ▸ found⟩
      · rw [List.mem_append, List.mem_singleton]
    rw [known, isMerged.present, List.map_append, List.mem_append, List.map_singleton, List.mem_singleton]
    constructor
    · rintro (⟨nonempty, written⟩ | rfl)
      · exact ⟨nonempty, .inl written⟩
      · exact ⟨named, .inr rfl⟩
    · rintro ⟨nonempty, written | same⟩
      · exact .inl ⟨nonempty, written⟩
      · exact .inr same
  · rw [keys]
    split
    · exact isMerged.ordered_append entry
    · next fresh =>
        have unwritten : entryKey entry ∉ entries.map entryKey := fun written =>
          fresh ((isMerged.present _).mpr ⟨named, written⟩)
        rw [List.pairwise_append]
        refine ⟨isMerged.ordered_append entry, List.pairwise_singleton _ _, ?_⟩
        intro first firstIn second same
        rw [List.mem_singleton] at same
        subst same
        have written := ((isMerged.present first).mp firstIn).2
        have before : (entries.map entryKey).idxOf first < (entries.map entryKey).length :=
          List.idxOf_lt_length_of_mem written
        rw [List.map_append, List.idxOf_append, List.idxOf_append, if_pos written, if_neg unwritten]
        omega
  · intro key value found
    by_cases same : key = entryKey entry
    · subst same
      rw [Entries.find?_put_self] at found
      cases found
      exact isLastValue_self entries entry
    · rw [Entries.find?_put_other same] at found
      exact (isMerged.last key value found).append (Ne.symm same)

end

/-! Reading. -/

variable {members : Entries Json} {key : String}

theorem textOf_of_textField {text : String} (read : textField members key "" = .ok text) :
    textOf (members.find? key) = text := by
  rcases textField_eq_ok_iff.mp read with ⟨missing, rfl⟩ | found
  · rcases field?_eq_none_iff.mp missing with absent | null
    · rw [absent]
      rfl
    · rw [null]
      rfl
  · rw [find?_of_field? found]
    rfl

theorem membersOf_of_sectionField {part : Entries Json} (read : sectionField members key = .ok part) :
    membersOf (members.find? key) = part := by
  rcases sectionField_eq_ok_iff.mp read with ⟨missing, rfl⟩ | found
  · rcases field?_eq_none_iff.mp missing with absent | null
    · rw [absent]
      rfl
    · rw [null]
      rfl
  · rw [find?_of_field? found]
    rfl

theorem readVariable_merges {profile : String} {entries : List Json} {entry : Json}
    {before after : Entries String} (isMerged : IsMerged entries before)
    (read : readVariable profile before entry = .ok after) : IsMerged (entries ++ [entry]) after := by
  rw [readVariable.eq_def] at read
  split at read
  · next members =>
      simp only [bind_eq_ok] at read
      obtain ⟨key, keyRead, read⟩ := read
      have hasKey : entryKey (.object members) = Text.trim key :=
        congrArg Text.trim (textOf_of_textField keyRead)
      split at read
      · next blank =>
          rw [pure_eq_ok] at read
          subst read
          exact isMerged.skip (hasKey.trans blank)
      · next named =>
          simp only [bind_eq_ok, pure_eq_ok] at read
          obtain ⟨value, valueRead, rfl⟩ := read
          have hasValue : entryValue (.object members) = value := textOf_of_textField valueRead
          rw [← hasKey, ← hasValue]
          exact isMerged.put (hasKey ▸ named)
  · cases read

theorem readVariables_merge {profile : String} {rest : List Json} {entries : List Json}
    {before after : Entries String} (isMerged : IsMerged entries before)
    (read : rest.foldlM (readVariable profile) before = .ok after) : IsMerged (entries ++ rest) after := by
  induction rest generalizing entries before with
  | nil =>
      rw [List.foldlM_nil, pure_eq_ok] at read
      rwa [List.append_nil, ← read]
  | cons entry rest ih =>
      rw [List.foldlM_cons, bind_eq_ok] at read
      obtain ⟨next, nextRead, read⟩ := read
      rw [List.append_cons]
      exact ih (readVariable_merges isMerged nextRead) read

theorem readProfile_merges {profile : String} {items : Json} {declared : List Variable}
    (read : readProfile profile items = .ok declared) :
    ∃ entries merged, items = .array entries ∧ IsMerged entries merged ∧
      declared = merged.map fun (key, value) => { key, value } := by
  rw [readProfile.eq_def] at read
  split at read
  · next entries =>
      simp only [bind_eq_ok, pure_eq_ok] at read
      obtain ⟨merged, mergedRead, rfl⟩ := read
      exact ⟨entries, merged, rfl, readVariables_merge isMerged_nil mergedRead, rfl⟩
  · cases read

theorem readProfiles_find? {written : Entries Json} {profiles : Entries (List Variable)}
    (read : written.mapM (fun (profile, items) => do
      pure (profile, ← readProfile profile items)) = .ok profiles) (profile : String) :
    (written.find? profile = none ∧ profiles.find? profile = none) ∨
      ∃ items declared, written.find? profile = some items ∧
        readProfile profile items = .ok declared ∧ profiles.find? profile = some declared := by
  induction written generalizing profiles with
  | nil =>
      rw [List.mapM_nil, pure_eq_ok] at read
      subst read
      exact .inl ⟨rfl, rfl⟩
  | cons entry rest ih =>
      obtain ⟨name, items⟩ := entry
      simp only [List.mapM_cons, bind_eq_ok, pure_eq_ok] at read
      obtain ⟨first, ⟨declared, declaredRead, rfl⟩, others, othersRead, rfl⟩ := read
      rw [Entries.find?, List.lookup_cons, Entries.find?, List.lookup_cons]
      by_cases same : profile = name
      · subst same
        rw [beq_self_eq_true]
        exact .inr ⟨items, declared, rfl, declaredRead, rfl⟩
      · rw [beq_false_of_ne same]
        exact ih othersRead

def profileEntries (document : Json) (profile : String) : List Json :=
  itemsOf ((membersOf ((membersOf (some document)).find? "envVars")).find? profile)

theorem readProfiles_merges {profiles : Entries (List Variable)}
    (read : readProfiles members = .ok profiles) (profile : String) :
    ∃ merged, IsMerged (profileEntries (.object members) profile) merged ∧
      (profiles.find? profile).getD [] = merged.map fun (key, value) => { key, value } := by
  rw [readProfiles, bind_eq_ok] at read
  obtain ⟨written, writtenRead, read⟩ := read
  have entries : profileEntries (.object members) profile = itemsOf (written.find? profile) := by
    rw [profileEntries, membersOf, membersOf_of_sectionField writtenRead]
  rw [entries]
  rcases readProfiles_find? read profile with
    ⟨notWritten, notLoaded⟩ | ⟨items, declared, isWritten, itemsRead, loaded⟩
  · rw [notWritten, notLoaded]
    exact ⟨[], isMerged_nil, rfl⟩
  · obtain ⟨entries, merged, rfl, isMerged, rfl⟩ := readProfile_merges itemsRead
    rw [isWritten, loaded]
    exact ⟨merged, isMerged, rfl⟩

theorem exists_merged {document : Json} {plan : Plan} (read : readPlan document = .ok plan)
    (profile : String) :
    ∃ merged, IsMerged (profileEntries document profile) merged ∧
      plan.profileVariables profile = merged.map fun (key, value) => { key, value } := by
  obtain ⟨members, rfl, profilesRead⟩ := readPlan_profiles read
  split at profilesRead
  · exact readProfiles_merges profilesRead profile
  · next missing =>
      have absent : Entries.find? members "envVars" = none := Option.not_isSome_iff_eq_none.mp missing
      have noEntries : profileEntries (.object members) profile = [] := by
        rw [profileEntries, membersOf, absent]
        rfl
      have noVariables : plan.profileVariables profile = [] := by
        rw [pure_eq_ok] at profilesRead
        rw [Plan.profileVariables, ← profilesRead, Entries.find?]
        simp only [List.lookup_cons]
        repeat' split
        all_goals rfl
      exact ⟨[], noEntries ▸ isMerged_nil, noVariables⟩

end LoadScript.Document
