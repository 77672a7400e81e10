import LoadScript.Json.Parser
import LoadScript.Proofs.Json.Numbers

/-!
Where the same characters stand for the halves of surrogate pairs, the same is read of a text under all limits that it
keeps to.
-/

namespace LoadScript.Json

variable {α β : Type} {first second : Dialect}

def IsBeyond (outcome : Except Fault α) : Prop := ∃ excess, outcome = .error (.overrun excess)

theorem IsBeyond.bind {outcome : Except Fault α} (beyond : IsBeyond outcome)
    (next : α → Except Fault β) : IsBeyond (outcome >>= next) := by
  obtain ⟨excess, rfl⟩ := beyond
  exact ⟨excess, rfl⟩

inductive Agree : (one other : Except Fault α) → Prop where
  | same (outcome : Except Fault α) : Agree outcome outcome
  | oneBeyond {one other : Except Fault α} (beyond : IsBeyond one) : Agree one other
  | otherBeyond {one other : Except Fault α} (beyond : IsBeyond other) : Agree one other

theorem Agree.bind {one other : Except Fault α} (agree : Agree one other)
    {next otherNext : α → Except Fault β} (goesOn : ∀ value, Agree (next value) (otherNext value)) :
    Agree (one >>= next) (other >>= otherNext) := by
  cases agree with
  | same =>
      cases one with
      | error fault => exact .same _
      | ok value => exact goesOn value
  | oneBeyond beyond => exact .oneBeyond (beyond.bind next)
  | otherBeyond beyond => exact .otherBeyond (beyond.bind otherNext)

theorem Agree.limited {within otherWithin : Prop} [Decidable within] [Decidable otherWithin] {excess : Overrun}
    {one other : Except Fault α} (inside : Agree one other) :
    Agree (if within then .error (.overrun excess) else one)
      (if otherWithin then .error (.overrun excess) else other) := by
  by_cases full : within
  · rw [if_pos full]
    exact .oneBeyond ⟨excess, rfl⟩
  by_cases otherFull : otherWithin
  · rw [if_pos otherFull]
    exact .otherBeyond ⟨excess, rfl⟩
  · rw [if_neg full, if_neg otherFull]
    exact inside

theorem number_agree (text : List Char) : Agree (number first text) (number second text) := by
  rw [number_eq, number_eq, unsignedNumber, unsignedNumber]
  split
  · exact .same _
  · simp only []
    split
    · exact .same _
    · exact .limited (.same _)

theorem scalar_agree (text : List Char) : Agree (scalar first text) (scalar second text) := by
  simp only [scalar]
  split
  · exact .same _
  · exact number_agree text

section

variable (same : first.half = second.half)

include same

theorem unitChar_of_half (unit : Nat) : unitChar first unit = unitChar second unit := by
  rw [unitChar, unitChar, same]

theorem escape_of_half (opening text : List Char) : escape first opening text = escape second opening text := by
  simp only [escape.eq_def, unitChar_of_half same]

theorem stringBody_of_half (opening text : List Char) (skip : Nat) :
    stringBody first opening skip text = stringBody second opening skip text := by
  induction text generalizing skip with
  | nil => cases skip <;> rfl
  | cons character rest ih =>
      cases skip with
      | succ skip => exact ih skip
      | zero => simp only [stringBody, escape_of_half same, ih]

theorem memberName_of_half (text : List Char) : memberName first text = memberName second text := by
  simp only [memberName.eq_def, stringBody_of_half same]

end

mutual

theorem readValue_agree (same : first.half = second.half) (depth fuel : Nat) (text : List Char) :
    Agree (readValue first depth fuel text) (readValue second depth fuel text) := by
  cases fuel with
  | zero => exact .same _
  | succ fuel =>
      rw [readValue.eq_def, readValue.eq_def]
      simp only []
      split
      · rw [stringBody_of_half same]
        exact .same _
      · refine .limited ?_
        split
        · exact .same _
        · exact (readMembers_agree same (depth + 1) fuel [] _).bind fun _ => .same _
      · refine .limited ?_
        split
        · exact .same _
        · exact (readItems_agree same (depth + 1) fuel _).bind fun _ => .same _
      · exact scalar_agree text

theorem readMembers_agree (same : first.half = second.half) (depth fuel : Nat) (before : Entries Json)
    (text : List Char) :
    Agree (readMembers first depth fuel before text) (readMembers second depth fuel before text) := by
  cases fuel with
  | zero => exact .same _
  | succ fuel =>
      rw [readMembers, readMembers, memberName_of_half same]
      refine (Agree.same _).bind fun ⟨name, behind⟩ => ?_
      refine (readValue_agree same depth fuel behind).bind fun ⟨member, rest⟩ => ?_
      simp only []
      split
      · exact .same _
      · exact readMembers_agree same depth fuel _ _
      · exact .same _

theorem readItems_agree (same : first.half = second.half) (depth fuel : Nat) (text : List Char) :
    Agree (readItems first depth fuel text) (readItems second depth fuel text) := by
  cases fuel with
  | zero => exact .same _
  | succ fuel =>
      rw [readItems, readItems]
      refine (readValue_agree same depth fuel text).bind fun ⟨item, rest⟩ => ?_
      simp only []
      split
      · exact .same _
      · exact (readItems_agree same depth fuel _).bind fun _ => .same _
      · exact .same _

end

theorem document_agree (same : first.half = second.half) (text : List Char) :
    Agree (document first text) (document second text) := by
  rw [document.eq_def, document.eq_def]
  split
  · exact .same _
  · exact (readValue_agree same 0 _ _).bind fun _ => .same _

/-- Whether a text is that of a document, within limits that are high enough. -/
def Spells (half : Nat → Char) (text : String) (result : Json) : Prop :=
  ∃ dialect : Dialect, dialect.half = half ∧ parse dialect text = .ok result

def Dialect.Overruns (dialect : Dialect) (text : String) : Prop :=
  ∃ excess, parse dialect text = .error (.overrun excess)

theorem Dialect.not_overruns {dialect : Dialect} {text : String} {result : Json}
    (read : parse dialect text = .ok result) : ¬ dialect.Overruns text := by
  rintro ⟨excess, broken⟩
  cases read.symm.trans broken

/-- The document that a text spells is read from it, or the text goes beyond a limit. -/
theorem parse_of_spells {dialect : Dialect} {text : String} {result : Json}
    (spells : Spells dialect.half text result) :
    parse dialect text = .ok result ∨ dialect.Overruns text := by
  obtain ⟨other, same, read⟩ := spells
  have agree := document_agree same text.toList
  rw [Dialect.Overruns, parse]
  rw [parse] at read
  generalize document other text.toList = one at agree read
  generalize document dialect text.toList = outcome at agree ⊢
  cases agree with
  | same => exact .inl read
  | oneBeyond beyond =>
      obtain ⟨excess, rfl⟩ := beyond
      cases read
  | otherBeyond beyond =>
      obtain ⟨excess, rfl⟩ := beyond
      exact .inr ⟨excess, rfl⟩

end LoadScript.Json
