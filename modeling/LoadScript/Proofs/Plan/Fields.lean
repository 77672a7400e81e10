import LoadScript.Plan.Reader
import LoadScript.Proofs.Json.Reading

/-!
What the fields of a document can hold. The numbers of a document that was read can be written, and so can
those of the fields.
-/

namespace LoadScript.Document

open Json (IsReadable ItemsReadable MembersReadable)

def IsSound (members : Entries Json) : Prop :=
  (members.map Prod.fst).Nodup ∧ ∃ (reader : Json.Reader) (depth : Nat), MembersReadable reader depth members

theorem isSound_nil : IsSound [] := ⟨List.nodup_nil, .standard, 0, trivial⟩

theorem isSound_of_object {reader : Json.Reader} {depth : Nat} {members : Entries Json}
    (readable : IsReadable reader depth (.object members)) : IsSound members :=
  ⟨readable.2.1, reader, depth + 1, readable.2.2⟩

variable {members : Entries Json} {key : String}

theorem field?_eq_none_iff :
    field? members key = none ↔ members.find? key = none ∨ members.find? key = some .null := by
  rw [field?]
  cases members.find? key with
  | none => simp
  | some value => cases value <;> simp

theorem find?_of_field? {value : Json} (found : field? members key = some value) :
    members.find? key = some value := by
  rw [field?] at found
  split at found
  · cases found
  · exact found

theorem textField_eq_ok_iff {default given : String} :
    textField members key default = .ok given ↔
      field? members key = none ∧ given = default ∨ field? members key = some (.string given) := by
  rw [textField]
  cases field? members key with
  | none => simp [eq_comm]
  | some value => cases value <;> simp [eq_comm]

theorem sectionField_eq_ok_iff {part : Entries Json} :
    sectionField members key = .ok part ↔
      field? members key = none ∧ part = [] ∨ field? members key = some (.object part) := by
  rw [sectionField]
  cases field? members key with
  | none => simp [eq_comm]
  | some value => cases value <;> simp [eq_comm]

theorem isReadable_of_find? {reader : Json.Reader} {depth : Nat} {value : Json}
    (readable : MembersReadable reader depth members)
    (found : members.find? key = some value) : IsReadable reader depth value := by
  induction members with
  | nil => cases found
  | cons entry rest ih =>
      obtain ⟨name, member⟩ := entry
      rw [Entries.find?, List.lookup_cons] at found
      split at found
      · cases found
        exact readable.1
      · exact ih readable.2 found

theorem isReadable_of_field? {value : Json} (sound : IsSound members)
    (found : field? members key = some value) :
    ∃ (reader : Json.Reader) (depth : Nat), IsReadable reader depth value := by
  obtain ⟨-, reader, depth, readable⟩ := sound
  exact ⟨reader, depth, isReadable_of_find? readable (find?_of_field? found)⟩

theorem wholeField_fits {default value : Int} (sound : IsSound members)
    (fits : LongNumber.fits default = true) (read : wholeField members key default = .ok value) :
    LongNumber.fits value = true := by
  rw [wholeField] at read
  split at read
  · cases read
    exact fits
  · next found =>
      cases read
      obtain ⟨reader, depth, readable⟩ := isReadable_of_field? sound found
      exact reader.takes_eq_fits value ▸ readable
  · cases read

theorem nearestNumber_eq_ok {rounded : Option Double} {value : Double}
    (read : nearestNumber rounded = .ok value) : rounded = some value := by
  cases rounded with
  | none => cases read
  | some number =>
      cases read
      rfl

theorem numberField_isCanonical {default value : Double} (sound : IsSound members)
    (canonical : default.IsCanonical) (read : numberField members key default = .ok value) :
    value.IsCanonical := by
  rw [numberField] at read
  split at read
  · cases read
    exact canonical
  · exact Double.ofInt?_isCanonical (nearestNumber_eq_ok read)
  · next found =>
      cases read
      obtain ⟨reader, depth, readable⟩ := isReadable_of_field? sound found
      exact readable
  · cases read

theorem sectionField_isSound {part : Entries Json} (sound : IsSound members)
    (read : sectionField members key = .ok part) : IsSound part := by
  rcases sectionField_eq_ok_iff.mp read with ⟨-, rfl⟩ | found
  · exact isSound_nil
  · obtain ⟨reader, depth, readable⟩ := isReadable_of_field? sound found
    exact isSound_of_object readable

theorem isReadable_of_mem {reader : Json.Reader} {depth : Nat} {items : List Json}
    (readable : ItemsReadable reader depth items) {item : Json} (found : item ∈ items) :
    IsReadable reader depth item := by
  induction items with
  | nil => cases found
  | cons first rest ih =>
      rcases List.mem_cons.mp found with rfl | inRest
      · exact readable.1
      · exact ih readable.2 inRest

theorem entriesField_isSound {entries : List (Entries Json)} (sound : IsSound members)
    (read : entriesField members key = .ok entries) : ∀ entry ∈ entries, IsSound entry := by
  rw [entriesField] at read
  split at read
  · cases read
    simp
  · next found =>
      obtain ⟨reader, depth, readable⟩ := isReadable_of_field? sound found
      refine Outcome.forall_of_mapM ?_ read
      intro item inItems part partRead
      have itemReadable := isReadable_of_mem readable.2 inItems
      cases item with
      | object fields =>
          cases partRead
          exact isSound_of_object itemReadable
      | null => cases partRead
      | boolean value => cases partRead
      | whole value => cases partRead
      | real value => cases partRead
      | string value => cases partRead
      | array items => cases partRead
  · cases read

end LoadScript.Document
