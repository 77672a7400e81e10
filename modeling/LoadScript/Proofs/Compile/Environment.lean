import LoadScript.Proofs.Compile.Declarations
import LoadScript.Proofs.Plan.Profiles

/-!
The constants of an environment. A script declares one for each variable of its profile, and the profile has
each key once.
-/

namespace LoadScript.Compile.Job

open Document (profileEntries entryKey IsLastValue)
open Script

/-- A profile has the keys that its list of entries gives, apart from blank ones, each once and in the order of
their first entries. Each has the value of its last entry. So its constants are declared once. -/
theorem environment_merged {document : Json} {plan : Plan} (read : Document.readPlan document = .ok plan)
    (profile : String) :
    (∀ entry ∈ plan.profileVariables profile, entry.key ≠ "" ∧ Text.trim entry.key = entry.key) ∧
      ((plan.profileVariables profile).map Variable.key).Nodup ∧
      (∀ key ≠ "", key ∈ (plan.profileVariables profile).map Variable.key ↔
        ∃ entry ∈ profileEntries document profile, entryKey entry = key) ∧
      (((plan.profileVariables profile).map Variable.key).Pairwise fun first second =>
        ((profileEntries document profile).map entryKey).idxOf first <
          ((profileEntries document profile).map entryKey).idxOf second) ∧
      (∀ entry ∈ plan.profileVariables profile,
        IsLastValue (profileEntries document profile) entry.key entry.value) ∧
      ∀ generatedAt scriptName,
        (declaredNames (environment { plan, profile, generatedAt, scriptName })).Nodup := by
  obtain ⟨merged, isMerged, declared⟩ := Document.exists_merged read profile
  have keys : (plan.profileVariables profile).map Variable.key = merged.map Prod.fst := by
    rw [declared, List.map_map]
    rfl
  have apart : (merged.map Prod.fst).Nodup :=
    isMerged.ordered.imp fun before same => absurd (same ▸ before) (Nat.lt_irrefl _)
  refine ⟨?_, keys ▸ apart, ?_, keys ▸ isMerged.ordered, ?_, ?_⟩
  · intro entry member
    have present : entry.key ∈ merged.map Prod.fst := keys ▸ List.mem_map_of_mem member
    obtain ⟨named, written⟩ := (isMerged.present entry.key).mp present
    obtain ⟨source, -, same⟩ := List.mem_map.mp written
    exact ⟨named, same ▸ Text.trim_trim _⟩
  · intro key named
    rw [keys, isMerged.present, List.mem_map]
    exact and_iff_right named
  · intro entry member
    rw [declared] at member
    obtain ⟨⟨key, value⟩, found, rfl⟩ := List.mem_map.mp member
    exact isMerged.last key value (Entries.find?_of_mem apart found)
  · intro generatedAt scriptName
    rw [declaredNames_environment]
    exact keys ▸ apart

def repeatedKeysDocument : Json := .object [
  ("envVars", .object [("dev", .array [
    .object [("key", .string "HOST"), ("value", .string "a")],
    .object [("key", .string "USER"), ("value", .null)],
    .object [("key", .string " "), ("value", .string "b")],
    .object [("key", .string " HOST\t"), ("value", .string "c")]])])]

def repeatedKeysPlan : Plan := { profiles := [("dev", [⟨"HOST", "c"⟩, ⟨"USER", ""⟩])] }

theorem environment_merged_repeatedKeys :
    Document.readPlan repeatedKeysDocument = .ok repeatedKeysPlan ∧
      IsLastValue (profileEntries repeatedKeysDocument "dev") "HOST" "c" ∧
      ∀ generatedAt scriptName, (declaredNames (environment {
        plan := repeatedKeysPlan, profile := "dev", generatedAt, scriptName })).Nodup := by
  have read : Document.readPlan repeatedKeysDocument = .ok repeatedKeysPlan :=
    Outcome.eq_ok_of_toOption (by rfl)
  have merged := environment_merged read "dev"
  exact ⟨read, merged.2.2.2.2.1 ⟨"HOST", "c"⟩ List.mem_cons_self, merged.2.2.2.2.2⟩

end LoadScript.Compile.Job
