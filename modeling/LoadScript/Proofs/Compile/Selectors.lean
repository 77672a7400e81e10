import LoadScript.Compile.Selector
import LoadScript.Proofs.Text.Cutting
import LoadScript.Proofs.Text.WholeNumber
import Mathlib.Data.List.Forall2

/-!
What a selector selects. Each of its entries gives one index below the number of requests, or a warning.
-/

namespace LoadScript.Compile

/-! One entry. -/

theorem selectEntry_cases (count : Nat) (entry : String) :
    (∃ index < count, selectEntry count entry = ⟨[index], []⟩) ∨
      ∃ message, selectEntry count entry = ⟨[], [⟨.warning, assemblyChannel, message⟩]⟩ := by
  rw [selectEntry]
  cases Text.wholeNumber? entry with
  | none => exact .inr ⟨_, rfl⟩
  | some position =>
      by_cases within : 1 ≤ position ∧ position ≤ count
      · left
        refine ⟨(position - 1).toNat, by omega, ?_⟩
        simp only [within, decide_true, Bool.and_self, if_true]
        rfl
      · right
        dsimp only
        rw [if_neg (by simpa using within)]
        exact ⟨_, rfl⟩

theorem selectEntry_position {count position : Nat} {entry : String}
    (read : Text.wholeNumber? entry = some (position : Int)) (least : 1 ≤ position)
    (most : position ≤ count) : selectEntry count entry = ⟨[position - 1], []⟩ := by
  have within : (1 ≤ (position : Int) ∧ (position : Int) ≤ count) := by omega
  have index : ((position : Int) - 1).toNat = position - 1 := by omega
  rw [selectEntry, read]
  simp only [within, decide_true, Bool.and_self, if_true, index]
  rfl

/-! All entries. -/

theorem selectEntries_cons (count : Int) (entry : String) (rest : List String) :
    selectEntries count (entry :: rest) =
      ⟨(selectEntry count entry).value ++ (selectEntries count rest).value,
        (selectEntry count entry).records ++ (selectEntries count rest).records⟩ := by
  rw [selectEntries]
  simp [bind, pure]

theorem selectEntries_append (count : Int) (first second : List String) :
    selectEntries count (first ++ second) =
      ⟨(selectEntries count first).value ++ (selectEntries count second).value,
        (selectEntries count first).records ++ (selectEntries count second).records⟩ := by
  induction first with
  | nil => rfl
  | cons entry rest ih =>
      rw [List.cons_append, selectEntries_cons, ih, selectEntries_cons]
      simp only [List.append_assoc]

theorem selectEntries_lt (count : Nat) (entries : List String) :
    ∀ index ∈ (selectEntries count entries).value, index < count := by
  induction entries with
  | nil =>
      intro index member
      cases member
  | cons entry rest ih =>
      rw [selectEntries_cons, List.forall_mem_append]
      refine ⟨?_, ih⟩
      rcases selectEntry_cases count entry with ⟨index, below, selected⟩ | ⟨message, skipped⟩
      · rw [selected]
        simpa using below
      · rw [skipped]
        simp

theorem selectEntries_warns (count : Nat) (entries : List String) :
    ∀ record ∈ (selectEntries count entries).records, record.level = .warning := by
  induction entries with
  | nil =>
      intro record member
      cases member
  | cons entry rest ih =>
      rw [selectEntries_cons, List.forall_mem_append]
      refine ⟨?_, ih⟩
      rcases selectEntry_cases count entry with ⟨index, -, selected⟩ | ⟨message, skipped⟩
      · rw [selected]
        simp
      · rw [skipped]
        simp

theorem length_selectEntries (count : Nat) (entries : List String) :
    (selectEntries count entries).value.length + (selectEntries count entries).records.length =
      entries.length := by
  induction entries with
  | nil => rfl
  | cons entry rest ih =>
      rw [selectEntries_cons, List.length_append, List.length_append, List.length_cons]
      rcases selectEntry_cases count entry with ⟨index, -, selected⟩ | ⟨message, skipped⟩
      · rw [selected, List.length_singleton, List.length_nil]
        omega
      · rw [skipped, List.length_singleton, List.length_nil]
        omega

theorem selectEntries_positions {count : Nat} {positions : List Nat} {entries : List String}
    (read : List.Forall₂ (fun (position : Nat) entry => Text.wholeNumber? entry = some (position : Int))
      positions entries)
    (within : ∀ position ∈ positions, 1 ≤ position ∧ position ≤ count) :
    selectEntries count entries = ⟨positions.map (· - 1), []⟩ := by
  induction read with
  | nil => rfl
  | cons here _ ih =>
      rw [List.forall_mem_cons] at within
      rw [selectEntries_cons, selectEntry_position here within.1.1 within.1.2, ih within.2]
      rfl

/-! Selectors. -/

theorem select_of_blank {selector : String} (blank : Text.isAllBlank selector = true) (count : Int) :
    select selector count = ⟨List.range count.toNat, []⟩ := by
  rw [select, if_pos blank]
  rfl

theorem select_of_entries {selector : String} (given : Text.isAllBlank selector = false) (count : Int) :
    select selector count = selectEntries count (selectorEntries selector) := by
  rw [select, if_neg (by simp [given])]

theorem select_lt (selector : String) (count : Nat) :
    ∀ index ∈ (select selector count).value, index < count := by
  cases blank : Text.isAllBlank selector with
  | true =>
      rw [select_of_blank blank]
      simp
  | false =>
      rw [select_of_entries blank]
      exact selectEntries_lt count _

theorem length_selectorEntries (selector : String) :
    (selectorEntries selector).length = selector.toList.count ',' + 1 := by
  rw [selectorEntries, List.length_map, Text.length_splitAt]

theorem selectorEntries_append (first second : String) :
    selectorEntries (first ++ "," ++ second) = selectorEntries first ++ selectorEntries second := by
  have text : (first ++ "," ++ second).toList = first.toList ++ ',' :: second.toList := by simp
  rw [selectorEntries, text, Text.splitAt_append, List.map_append]
  rfl

theorem not_isAllBlank_of_mem {text : String} {character : Char} (member : character ∈ text.toList)
    (solid : Text.isBlank character = false) : Text.isAllBlank text = false := by
  rw [Text.isAllBlank, List.all_eq_false]
  exact ⟨character, member, by simp [solid]⟩

/-! Written positions. -/

/-- Whether an entry is a position written in decimal, with blanks around it. Numbers with more digits than the
greatest length are not written at all. -/
def IsWritten (position : Nat) (entry : String) : Prop :=
  LongNumber.fits position = true ∧ ∃ before after : String, Text.isAllBlank before = true ∧
    Text.isAllBlank after = true ∧ entry = before ++ toString position ++ after

namespace IsWritten

variable {position : Nat} {entry : String}

theorem read (written : IsWritten position entry) :
    Text.wholeNumber? (Text.trim entry) = some (position : Int) := by
  obtain ⟨fits, before, after, front, back, rfl⟩ := written
  have solid : ∀ digit ∈ (toString position).toList, Text.isBlank digit = false := fun digit member =>
    Text.isBlank_of_isDigit (Text.allDigits_toString position digit member)
  have trimmed : Text.trim (before ++ toString position ++ after) = toString position := by
    rw [Text.trim, String.toList_append, String.toList_append, Text.trimChars,
      Text.dropEnds_solid (Text.toString_ne_nil position) solid (List.all_eq_true.mp front)
        (List.all_eq_true.mp back), String.ofList_toList]
  rw [trimmed]
  exact Text.wholeNumber?_toString fits

theorem notMem (written : IsWritten position entry) : ',' ∉ entry.toList := by
  obtain ⟨-, before, after, front, back, rfl⟩ := written
  have blanks {text : String} (all : Text.isAllBlank text = true) : ',' ∉ text.toList := fun member =>
    absurd (List.all_eq_true.mp all ',' member) (by decide)
  have digits : ',' ∉ (toString position).toList := fun member =>
    absurd (Text.allDigits_toString position ',' member) (by decide)
  rw [String.toList_append, String.toList_append, List.mem_append, List.mem_append, not_or, not_or]
  exact ⟨⟨blanks front, digits⟩, blanks back⟩

theorem exists_solid (written : IsWritten position entry) :
    ∃ character ∈ entry.toList, Text.isBlank character = false := by
  obtain ⟨-, before, after, -, -, rfl⟩ := written
  obtain ⟨digit, member⟩ := List.exists_mem_of_ne_nil _ (Text.toString_ne_nil position)
  refine ⟨digit, ?_, Text.isBlank_of_isDigit (Text.allDigits_toString position digit member)⟩
  rw [String.toList_append, String.toList_append]
  exact List.mem_append_left _ (List.mem_append_right _ member)

end IsWritten

/-! Whole selectors. -/

theorem selectorEntries_intercalate {entries : List String} (nonempty : entries ≠ [])
    (apart : ∀ entry ∈ entries, ',' ∉ entry.toList) :
    selectorEntries (String.intercalate "," entries) = entries.map Text.trim := by
  have listed : entries.map String.toList ≠ [] := by simpa using nonempty
  have whole : ∀ piece ∈ entries.map String.toList, ',' ∉ piece := by simpa using apart
  rw [selectorEntries, String.toList_intercalate]
  change ((Text.splitAt ',' ([','].intercalate (entries.map String.toList))).map _) = _
  rw [Text.splitAt_intercalate listed whole, List.map_map]
  rfl

theorem not_isAllBlank_intercalate {entries : List String} {entry : String} (member : entry ∈ entries)
    (solid : ∃ character ∈ entry.toList, Text.isBlank character = false) :
    Text.isAllBlank (String.intercalate "," entries) = false := by
  obtain ⟨character, inside, mark⟩ := solid
  have within : character ∈ (String.intercalate "," entries).toList := by
    rw [String.toList_intercalate]
    exact Text.mem_intercalate_of_mem (List.mem_map_of_mem member) inside
  exact not_isAllBlank_of_mem within mark

theorem select_written {count : Nat} {positions : List Nat} {entries : List String}
    (written : List.Forall₂ IsWritten positions entries) (nonempty : positions ≠ [])
    (within : ∀ position ∈ positions, 1 ≤ position ∧ position ≤ count) :
    select (String.intercalate "," entries) count = ⟨positions.map (· - 1), []⟩ := by
  have apart : ∀ entry ∈ entries, ',' ∉ entry.toList := by
    clear nonempty within
    induction written with
    | nil => simp
    | cons here _ ih => exact List.forall_mem_cons.mpr ⟨here.notMem, ih⟩
  have read : List.Forall₂ (fun (position : Nat) entry => Text.wholeNumber? entry = some (position : Int))
      positions (entries.map Text.trim) :=
    List.forall₂_map_right_iff.mpr (written.imp fun _ _ here => here.read)
  cases written with
  | nil => exact absurd rfl nonempty
  | cons here _ =>
      rw [select_of_entries (not_isAllBlank_intercalate List.mem_cons_self here.exists_solid),
        selectorEntries_intercalate (List.cons_ne_nil _ _) apart, selectEntries_positions read within]

/-- Selectors select below the number of requests: all of them when nothing is selected, and else one
request or one warning an entry. Selectors joined by a comma select one after the other, and written
positions are selected as written. -/
theorem select_laws (count : Nat) :
    (∀ selector, ∀ index ∈ (select selector count).value, index < count) ∧
    (∀ selector, Text.isAllBlank selector = true → select selector count = ⟨List.range count, []⟩) ∧
    (∀ selector, Text.isAllBlank selector = false →
      (select selector count).value.length + (select selector count).records.length =
          selector.toList.count ',' + 1 ∧
        ∀ record ∈ (select selector count).records, record.level = .warning) ∧
    (∀ first second, Text.isAllBlank first = false → Text.isAllBlank second = false →
      (select (first ++ "," ++ second) count).value =
          (select first count).value ++ (select second count).value ∧
        (select (first ++ "," ++ second) count).records =
          (select first count).records ++ (select second count).records) ∧
    ∀ positions entries, positions ≠ [] → (∀ position ∈ positions, 1 ≤ position ∧ position ≤ count) →
      List.Forall₂ IsWritten positions entries →
      select (String.intercalate "," entries) count = ⟨positions.map (· - 1), []⟩ := by
  refine ⟨fun selector => select_lt selector count, fun selector blank => select_of_blank blank count,
    ?entries, ?joined, fun positions entries nonempty within written => ?written⟩
  case entries =>
    intro selector given
    rw [select_of_entries given, length_selectEntries, length_selectorEntries]
    exact ⟨rfl, selectEntries_warns count _⟩
  case joined =>
    intro first second givenFirst givenSecond
    obtain ⟨character, member, solid⟩ := List.all_eq_false.mp givenFirst
    have given : Text.isAllBlank (first ++ "," ++ second) = false := by
      rw [String.append_assoc]
      exact not_isAllBlank_of_mem (String.toList_append ▸ List.mem_append_left _ member)
        (by simpa using solid)
    rw [select_of_entries given, select_of_entries givenFirst, select_of_entries givenSecond,
      selectorEntries_append, selectEntries_append]
    exact ⟨rfl, rfl⟩
  case written => exact select_written written nonempty within

theorem select_laws_repeated :
    (∀ index ∈ (select "7,,x" 2).value, index < 2) ∧
    select "\t " 2 = ⟨[0, 1], []⟩ ∧
    (select "7,,x" 2).value.length + (select "7,,x" 2).records.length = 3 ∧
    (select ("2,0" ++ "," ++ "1") 2).value = (select "2,0" 2).value ++ (select "1" 2).value ∧
    select (String.intercalate "," [" 2", "1\t", "2"]) 2 = ⟨[1, 0, 1], []⟩ := by
  obtain ⟨below, blank, entries, joined, written⟩ := select_laws 2
  have one : LongNumber.fits (1 : Nat) = true := by decide +kernel
  have two : LongNumber.fits (2 : Nat) = true := by decide +kernel
  have spelled : List.Forall₂ IsWritten [2, 1, 2] [" 2", "1\t", "2"] :=
    .cons ⟨two, " ", "", rfl, rfl, rfl⟩ (.cons ⟨one, "", "\t", rfl, rfl, rfl⟩
      (.cons ⟨two, "", "", rfl, rfl, rfl⟩ .nil))
  exact ⟨below "7,,x", blank "\t " (by decide), (entries "7,,x" (by decide)).1,
    (joined "2,0" "1" (by decide) (by decide)).1, written [2, 1, 2] _ (by decide) (by decide) spelled⟩

end LoadScript.Compile
