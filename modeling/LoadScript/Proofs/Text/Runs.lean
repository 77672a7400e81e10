/-!
Runs of characters: what is taken from the start of a text that goes on with something else.
-/

namespace LoadScript.Text

/-- Without this, the characters of a text may be checked by running through all characters there are. -/
instance everyDecidable {holds : Char → Prop} [DecidablePred holds] (text : List Char) :
    Decidable (∀ character ∈ text, holds character) :=
  List.decidableBAll holds text

def StopsAt (kind : Char → Bool) (text : List Char) : Prop :=
  ∀ character ∈ text.head?, kind character = false

def StartsWith (kind : Char → Bool) (text : List Char) : Prop :=
  ∃ first rest, text = first :: rest ∧ kind first = true

variable {kind : Char → Bool} {run rest : List Char}

@[simp] theorem stopsAt_nil : StopsAt kind [] := by
  intro character found
  cases found

@[simp] theorem stopsAt_cons {character : Char} :
    StopsAt kind (character :: rest) ↔ kind character = false := by
  simp [StopsAt]

theorem takeWhile_run (all : ∀ character ∈ run, kind character = true) (stops : StopsAt kind rest) :
    (run ++ rest).takeWhile kind = run := by
  rw [List.takeWhile_append_of_pos all]
  cases rest with
  | nil => simp
  | cons character rest => simp [stopsAt_cons.mp stops]

theorem dropWhile_run (all : ∀ character ∈ run, kind character = true) (stops : StopsAt kind rest) :
    (run ++ rest).dropWhile kind = rest := by
  rw [List.dropWhile_append_of_pos all]
  cases rest with
  | nil => simp
  | cons character rest => simp [stopsAt_cons.mp stops]

theorem takeWhile_append_stop {stop : Char} (stops : kind stop = false) (text rest : List Char) :
    (text ++ stop :: rest).takeWhile kind = text.takeWhile kind := by
  induction text with
  | nil => simp [stops]
  | cons character text ih =>
      rw [List.cons_append, List.takeWhile_cons, List.takeWhile_cons, ih]

theorem dropWhile_append_stop {stop : Char} (stops : kind stop = false) (text rest : List Char) :
    (text ++ stop :: rest).dropWhile kind = text.dropWhile kind ++ stop :: rest := by
  induction text with
  | nil => simp [stops]
  | cons character text ih =>
      rw [List.cons_append, List.dropWhile_cons, List.dropWhile_cons, ih]
      split <;> rfl

theorem exists_run (kind : Char → Bool) (text : List Char) :
    (∀ character ∈ text, kind character = true) ∨
      ∃ run stop rest, text = run ++ stop :: rest ∧ (∀ character ∈ run, kind character = true) ∧
        kind stop = false := by
  induction text with
  | nil => exact .inl (by simp)
  | cons character text ih =>
      cases isKind : kind character with
      | false => exact .inr ⟨[], character, text, rfl, by simp, isKind⟩
      | true =>
          rcases ih with all | ⟨run, stop, rest, rfl, run_all, stops⟩
          · exact .inl (List.forall_mem_cons.mpr ⟨isKind, all⟩)
          · exact .inr ⟨character :: run, stop, rest, rfl,
              List.forall_mem_cons.mpr ⟨isKind, run_all⟩, stops⟩

theorem StartsWith.append (starts : StartsWith kind run) (rest : List Char) :
    StartsWith kind (run ++ rest) := by
  obtain ⟨first, others, rfl, isKind⟩ := starts
  exact ⟨first, others ++ rest, rfl, isKind⟩

theorem StartsWith.imp {other : Char → Bool} (starts : StartsWith kind run)
    (implies : ∀ character, kind character = true → other character = true) :
    StartsWith other run := by
  obtain ⟨first, others, rfl, isKind⟩ := starts
  exact ⟨first, others, rfl, implies first isKind⟩

end LoadScript.Text
