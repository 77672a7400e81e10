import LoadScript.Entries

/-!
Putting entries keeps their keys apart, and each key is looked up where it stands.
-/

namespace LoadScript.Entries

variable {α : Type}

theorem put_of_fresh {key : String} {entries : Entries α} (fresh : key ∉ entries.map Prod.fst)
    (value : α) : entries.put key value = entries ++ [(key, value)] := by
  induction entries with
  | nil => rfl
  | cons entry rest ih =>
      rw [List.map_cons, List.mem_cons, not_or] at fresh
      rw [put, if_neg (Ne.symm fresh.1), ih fresh.2]
      rfl

theorem keys_put (key : String) (value : α) (entries : Entries α) :
    (entries.put key value).map Prod.fst =
      if key ∈ entries.map Prod.fst then entries.map Prod.fst
      else entries.map Prod.fst ++ [key] := by
  induction entries with
  | nil => rfl
  | cons entry rest ih =>
      obtain ⟨present, old⟩ := entry
      by_cases same : present = key
      · subst same
        simp [put]
      · simp only [put, if_neg same, List.map_cons, ih, List.mem_cons, Ne.symm same, false_or]
        split <;> rfl

theorem nodup_put {key : String} {entries : Entries α} (apart : (entries.map Prod.fst).Nodup)
    (value : α) : ((entries.put key value).map Prod.fst).Nodup := by
  rw [keys_put]
  split
  · exact apart
  · next fresh =>
      rw [List.nodup_append]
      refine ⟨apart, by simp, ?_⟩
      rintro other found _ last rfl
      rw [List.mem_singleton] at last
      exact fresh (last ▸ found)

theorem find?_cons_of_ne {key present : String} (apart : key ≠ present) (value : α) (rest : Entries α) :
    find? ((present, value) :: rest) key = rest.find? key := by
  rw [find?, List.lookup_cons, beq_false_of_ne apart]
  rfl

theorem find?_put_self (key : String) (value : α) (entries : Entries α) :
    (entries.put key value).find? key = some value := by
  induction entries with
  | nil => exact List.lookup_cons_self
  | cons entry rest ih =>
      obtain ⟨present, old⟩ := entry
      rw [put]
      split
      · next same =>
          subst same
          exact List.lookup_cons_self
      · next other =>
          rw [find?_cons_of_ne (Ne.symm other)]
          exact ih

theorem find?_put_other {key other : String} (apart : other ≠ key) (value : α) (entries : Entries α) :
    (entries.put key value).find? other = entries.find? other := by
  induction entries with
  | nil => exact find?_cons_of_ne apart value []
  | cons entry rest ih =>
      obtain ⟨present, old⟩ := entry
      rw [put]
      split
      · next same =>
          subst same
          rw [find?_cons_of_ne apart, find?_cons_of_ne apart]
      · by_cases first : other = present
        · subst first
          rw [find?, find?, List.lookup_cons_self, List.lookup_cons_self]
        · rw [find?_cons_of_ne first, find?_cons_of_ne first]
          exact ih

theorem find?_eq_none_iff {key : String} {entries : Entries α} :
    entries.find? key = none ↔ key ∉ entries.map Prod.fst := by
  rw [find?, List.lookup_eq_none_iff, List.mem_map]
  constructor
  · rintro missing ⟨entry, member, rfl⟩
    exact absurd (missing entry member) (by simp)
  · intro absent entry member
    rw [bne_iff_ne]
    rintro rfl
    exact absent ⟨entry, member, rfl⟩

theorem mem_of_find? {key : String} {value : α} {entries : Entries α}
    (found : entries.find? key = some value) : (key, value) ∈ entries := by
  obtain ⟨before, after, whole, -⟩ := List.lookup_eq_some_iff.mp found
  simp [whole]

theorem find?_of_mem {key : String} {value : α} {entries : Entries α}
    (apart : (entries.map Prod.fst).Nodup) (member : (key, value) ∈ entries) :
    entries.find? key = some value := by
  induction entries with
  | nil => cases member
  | cons entry rest ih =>
      obtain ⟨present, old⟩ := entry
      rw [List.map_cons, List.nodup_cons] at apart
      rcases List.mem_cons.mp member with same | later
      · cases same
        exact List.lookup_cons_self
      · have other : key ≠ present := by
          rintro rfl
          exact apart.1 (List.mem_map.mpr ⟨_, later, rfl⟩)
        rw [find?_cons_of_ne other]
        exact ih apart.2 later

end LoadScript.Entries
