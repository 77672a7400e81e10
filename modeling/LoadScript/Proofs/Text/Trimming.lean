import LoadScript.Proofs.Text.Runs
import LoadScript.Text.Blank

/-!
What trimming keeps. Trimming a text twice is trimming it once.
-/

namespace LoadScript.Text

variable {kind : Char → Bool}

theorem stopsAt_dropWhile (kind : Char → Bool) (text : List Char) :
    StopsAt kind (text.dropWhile kind) := by
  intro character found
  have stopped := List.head?_dropWhile_not kind text
  rw [Option.mem_def.mp found] at stopped
  exact stopped

theorem dropWhile_of_stopsAt {text : List Char} (stops : StopsAt kind text) :
    text.dropWhile kind = text := by
  cases text with
  | nil => rfl
  | cons character rest => exact List.dropWhile_cons_of_neg (by simp [stopsAt_cons.mp stops])

theorem StopsAt.of_start {start text : List Char} (stops : StopsAt kind text)
    (begins : start <+: text) : StopsAt kind start := by
  obtain ⟨rest, rfl⟩ := begins
  cases start with
  | nil => exact stopsAt_nil
  | cons character start => exact stopsAt_cons.mpr (stopsAt_cons.mp stops)

theorem dropEndWhile_start (kind : Char → Bool) (text : List Char) :
    dropEndWhile kind text <+: text := by
  have := List.reverse_prefix.mpr (List.dropWhile_suffix (l := text.reverse) kind)
  rwa [List.reverse_reverse] at this

theorem exists_dropped_end (kind : Char → Bool) (text : List Char) :
    ∃ dropped, dropEndWhile kind text ++ dropped = text ∧
      ∀ character ∈ dropped, kind character = true := by
  refine ⟨(text.reverse.takeWhile kind).reverse, ?_, ?_⟩
  · rw [dropEndWhile, ← List.reverse_append, List.takeWhile_append_dropWhile, List.reverse_reverse]
  · intro character found
    exact List.all_eq_true.mp List.all_takeWhile character (List.mem_reverse.mp found)

theorem dropEndWhile_idem (kind : Char → Bool) (text : List Char) :
    dropEndWhile kind (dropEndWhile kind text) = dropEndWhile kind text := by
  rw [dropEndWhile, dropEndWhile, List.reverse_reverse,
    dropWhile_of_stopsAt (stopsAt_dropWhile kind text.reverse)]

theorem getLast?_dropEndWhile {kind : Char → Bool} {text : List Char} {character : Char}
    (last : (dropEndWhile kind text).getLast? = some character) : kind character = false := by
  rw [dropEndWhile, List.getLast?_reverse] at last
  exact stopsAt_dropWhile kind text.reverse character last

theorem dropEndWhile_eq_self_iff {character : Char} {text : List Char} :
    dropEndWhile (· = character) text = text ↔ text.getLast? ≠ some character := by
  constructor
  · intro same last
    rw [← same] at last
    simpa using getLast?_dropEndWhile last
  · intro stops
    rw [dropEndWhile, dropWhile_of_stopsAt, List.reverse_reverse]
    intro last found
    rw [List.head?_reverse] at found
    have other : last ≠ character := fun same => stops (same ▸ found)
    simp [other]

theorem dropEndWhile_append_cons {character : Char} (kept : kind character = false)
    (before after : List Char) :
    dropEndWhile kind (before ++ character :: after) =
      before ++ character :: dropEndWhile kind after := by
  simp only [dropEndWhile, List.reverse_append, List.reverse_cons, List.append_assoc,
    List.dropWhile_append, List.cons_append, List.nil_append, List.dropWhile_cons, kept]
  split
  · next dropped => simp [List.isEmpty_iff.mp dropped]
  · simp

theorem dropEndWhile_run {text run : List Char} (stops : StopsAt kind text.reverse)
    (all : ∀ character ∈ run, kind character = true) : dropEndWhile kind (text ++ run) = text := by
  have back : ∀ character ∈ run.reverse, kind character = true := fun character member =>
    all character (List.mem_reverse.mp member)
  rw [dropEndWhile, List.reverse_append, dropWhile_run back stops, List.reverse_reverse]

/-- What is dropped at both ends stands around a text of which nothing is dropped. -/
theorem dropEnds_solid {before text after : List Char} (nonempty : text ≠ [])
    (solid : ∀ character ∈ text, kind character = false)
    (front : ∀ character ∈ before, kind character = true)
    (back : ∀ character ∈ after, kind character = true) :
    dropEndWhile kind ((before ++ text ++ after).dropWhile kind) = text := by
  have starts : StopsAt kind (text ++ after) := by
    obtain ⟨first, rest, rfl⟩ := List.exists_cons_of_ne_nil nonempty
    exact stopsAt_cons.mpr (solid first List.mem_cons_self)
  have ends : StopsAt kind text.reverse := by
    intro last found
    exact solid last (List.mem_reverse.mp (List.mem_of_head? found))
  rw [List.append_assoc, dropWhile_run front starts, dropEndWhile_run ends back]

theorem trimChars_idem (text : List Char) : trimChars (trimChars text) = trimChars text := by
  have stops : StopsAt isBlank (trimChars text) :=
    (stopsAt_dropWhile isBlank text).of_start (dropEndWhile_start isBlank _)
  rw [trimChars, dropWhile_of_stopsAt stops, trimChars, dropEndWhile_idem]

@[simp] theorem trim_trim (text : String) : trim (trim text) = trim text := by
  rw [trim, trim, String.toList_ofList, trimChars_idem]

theorem isAllBlank_of_trim {text : String} (trimmed : trim text = "") : isAllBlank text = true := by
  have nothing : trimChars text.toList = [] := String.ofList_eq_empty_iff.mp trimmed
  obtain ⟨dropped, whole, blanks⟩ := exists_dropped_end isBlank (text.toList.dropWhile isBlank)
  rw [show dropEndWhile isBlank (text.toList.dropWhile isBlank) = [] from nothing, List.nil_append] at whole
  rcases exists_run isBlank text.toList with all | ⟨run, stop, rest, split, all, stops⟩
  · exact List.all_eq_true.mpr all
  · rw [split, dropWhile_run all (stopsAt_cons.mpr stops)] at whole
    rw [whole, List.forall_mem_cons, stops] at blanks
    exact absurd blanks.1 (by decide)

end LoadScript.Text
