import LoadScript.Curl.Tokens

/-!
What is found in a text, told part by part: where nothing can be read, where something is read, and where a
part is read the same whatever follows it.
-/

namespace LoadScript.Curl

open Text

@[simp] theorem startBehind_nil (atStart : Bool) : startBehind atStart [] = atStart := rfl

@[simp] theorem startBehind_cons (atStart : Bool) (character : Char) (rest : List Char) :
    startBehind atStart (character :: rest) = startBehind (isBlank character) rest := rfl

@[simp] theorem startBehind_append (atStart : Bool) (first second : List Char) :
    startBehind atStart (first ++ second) = startBehind (startBehind atStart first) second :=
  List.foldl_append

@[simp] theorem startBehind_mark (atStart : Bool) (text : List Char) (character : Char) :
    startBehind atStart (text ++ [character]) = isBlank character := by
  rw [startBehind_append]
  rfl

namespace AtTokens

variable {holds other : List Char → Prop} {atStart : Bool} {text : List Char}

theorem imp (implies : ∀ character rest, holds (character :: rest) → other (character :: rest))
    (all : AtTokens holds atStart text) : AtTokens other atStart text := by
  induction text generalizing atStart with
  | nil => trivial
  | cons character rest ih => exact ⟨fun starts => implies _ _ (all.1 starts), ih all.2⟩

theorem of_suffix (all : ∀ inside, inside <:+ text → holds inside) : AtTokens holds atStart text := by
  induction text generalizing atStart with
  | nil => trivial
  | cons character rest ih =>
      exact ⟨fun _ => all _ List.suffix_rfl, ih fun inside within =>
        all inside (within.trans (List.suffix_cons character rest))⟩

theorem of_start (all : AtTokens holds true text) (atStart : Bool) : AtTokens holds atStart text := by
  cases text with
  | nil => trivial
  | cons character rest => exact ⟨fun _ => all.1 rfl, all.2⟩

theorem of_solid (solid : ∀ character ∈ text, isBlank character = false) :
    AtTokens holds false text := by
  induction text with
  | nil => trivial
  | cons character rest ih =>
      rw [List.forall_mem_cons] at solid
      refine ⟨fun starts => absurd starts (by decide), ?_⟩
      rw [solid.1]
      exact ih solid.2

variable (holds) in
theorem of_word {word rest : List Char} (solid : ∀ letter ∈ word, isBlank letter = false)
    (first : holds (word ++ rest)) : AtTokens (fun inside => holds (inside ++ rest)) true word := by
  cases word with
  | nil => trivial
  | cons letter others =>
      rw [List.forall_mem_cons] at solid
      refine ⟨fun _ => first, ?_⟩
      rw [solid.1]
      exact .of_solid solid.2

theorem append_iff {first second : List Char} :
    AtTokens holds atStart (first ++ second) ↔
      AtTokens (fun rest => holds (rest ++ second)) atStart first ∧
        AtTokens holds (startBehind atStart first) second := by
  induction first generalizing atStart with
  | nil => simp [AtTokens]
  | cons character rest ih =>
      rw [List.cons_append, AtTokens, ih, AtTokens, startBehind_cons, and_assoc]
      rfl

end AtTokens

variable {α : Type} {read? : List Char → Option (α × List Char)}

/-- Whether what is read from the start of a text is read the same when the text goes on. -/
def Settled (read? : List Char → Option (α × List Char)) (rest text : List Char) : Prop :=
  read? (text ++ rest) = (read? text).map fun found => (found.1, found.2 ++ rest)

/-! A search at the start of a token. -/

theorem findAll_start (character : Char) (rest : List Char) :
    findAll read? true 0 (character :: rest) =
      match read? (character :: rest) with
      | some (found, after) =>
          found :: findAll read? (isBlank character) (rest.length - after.length) rest
      | none => findAll read? (isBlank character) 0 rest := rfl

theorem findAll_found {character : Char} {rest after : List Char} {found : α}
    (read : read? (character :: rest) = some (found, after)) :
    findAll read? true 0 (character :: rest) =
      found :: findAll read? (isBlank character) (rest.length - after.length) rest := by
  rw [findAll_start, read]

theorem findAll_missed {character : Char} {rest : List Char}
    (nothing : read? (character :: rest) = none) :
    findAll read? true 0 (character :: rest) = findAll read? (isBlank character) 0 rest := by
  rw [findAll_start, nothing]

/-- A part in which everything is settled is searched apart from what follows it. -/
theorem findAll_append {atStart : Bool} {text rest : List Char}
    (settled : AtTokens (Settled read? rest) atStart text)
    {skip : Nat} (within : skip ≤ text.length) :
    findAll read? atStart skip (text ++ rest) =
      findAll read? atStart skip text ++ findAll read? (startBehind atStart text) 0 rest := by
  induction text generalizing atStart skip with
  | nil =>
      rw [List.length_nil, Nat.le_zero] at within
      subst within
      rfl
  | cons character text ih =>
      cases skip with
      | succ skip =>
          rw [List.length_cons, Nat.succ_le_succ_iff] at within
          exact ih settled.2 within
      | zero =>
          rw [List.cons_append]
          cases atStart with
          | false => exact ih settled.2 (Nat.zero_le _)
          | true =>
              have here : read? (character :: (text ++ rest)) =
                  (read? (character :: text)).map fun found => (found.1, found.2 ++ rest) :=
                settled.1 rfl
              rw [findAll_start, findAll_start, here]
              cases read? (character :: text) with
              | none => exact ih settled.2 (Nat.zero_le _)
              | some found =>
                  -- What is left in the part is left in the whole, so both skip the same.
                  have same : (text ++ rest).length - (found.2 ++ rest).length =
                      text.length - found.2.length := by
                    rw [List.length_append, List.length_append]
                    omega
                  simp only [Option.map_some, same]
                  rw [ih settled.2 (Nat.sub_le _ _), List.cons_append]
                  rfl

theorem findAll_pass {atStart : Bool} {text rest : List Char}
    (nothing : AtTokens (fun inside => read? (inside ++ rest) = none) atStart text) :
    findAll read? atStart 0 (text ++ rest) = findAll read? (startBehind atStart text) 0 rest := by
  induction text generalizing atStart with
  | nil => rfl
  | cons character text ih =>
      rw [List.cons_append]
      cases atStart with
      | false => exact ih nothing.2
      | true =>
          have here : read? (character :: (text ++ rest)) = none := nothing.1 rfl
          rw [findAll_missed here]
          exact ih nothing.2

theorem findAll_eq_nil {atStart : Bool} {text : List Char}
    (nothing : AtTokens (fun inside => read? inside = none) atStart text) :
    findAll read? atStart 0 text = [] := by
  have passed : findAll read? atStart 0 (text ++ []) = _ := findAll_pass (by simpa using nothing)
  rwa [List.append_nil] at passed

theorem findAll_skip {atStart : Bool} (text rest : List Char) :
    findAll read? atStart text.length (text ++ rest) = findAll read? (startBehind atStart text) 0 rest := by
  induction text generalizing atStart with
  | nil => rfl
  | cons character text ih => exact ih

theorem head?_findAll {text after : List Char} {found : α} (nonempty : text ≠ [])
    (read : read? text = some (found, after)) : (findAll read? true 0 text).head? = some found := by
  cases text with
  | nil => exact absurd rfl nonempty
  | cons character text =>
      rw [findAll_found read]
      rfl

theorem exists_of_mem_findAll {atStart : Bool} {skip : Nat} {text : List Char} {found : α}
    (mem : found ∈ findAll read? atStart skip text) :
    ∃ inside after, read? inside = some (found, after) := by
  induction text generalizing atStart skip with
  | nil => cases (mem : found ∈ ([] : List α))
  | cons character rest ih =>
      cases skip with
      | succ skip => exact ih mem
      | zero =>
          cases atStart with
          | false => exact ih mem
          | true =>
              cases read : read? (character :: rest) with
              | none =>
                  rw [findAll_missed read] at mem
                  exact ih mem
              | some first =>
                  rw [findAll_found read] at mem
                  rcases List.mem_cons.mp mem with rfl | later
                  · exact ⟨_, _, read⟩
                  · exact ih later

theorem findAll_map {β : Type} {other? : List Char → Option (β × List Char)} (change : α → β)
    (reads : ∀ text, other? text = (read? text).map fun found => (change found.1, found.2))
    (atStart : Bool) (skip : Nat) (text : List Char) :
    findAll other? atStart skip text = (findAll read? atStart skip text).map change := by
  induction text generalizing atStart skip with
  | nil => rfl
  | cons character rest ih =>
      cases skip with
      | succ skip => exact ih _ skip
      | zero =>
          cases atStart with
          | false => exact ih _ 0
          | true =>
              rw [findAll_start, findAll_start, reads]
              cases read? (character :: rest) with
              | none => exact ih _ 0
              | some found => exact congrArg (change found.1 :: ·) (ih _ _)

theorem findAll_hit {text rest : List Char} {found : α} (nonempty : text ≠ [])
    (read : read? (text ++ rest) = some (found, rest)) :
    findAll read? true 0 (text ++ rest) = found :: findAll read? (startBehind true text) 0 rest := by
  cases text with
  | nil => exact absurd rfl nonempty
  | cons character text =>
      rw [List.cons_append] at read
      have width : (text ++ rest).length - rest.length = text.length := by
        rw [List.length_append]
        omega
      rw [List.cons_append, findAll_found read, width, findAll_skip]
      rfl

/-- A search that reads the same at each start of a token finds the same thing first, or it passes over the
whole part. -/
theorem head?_findAll_append {atStart : Bool} {text one other : List Char}
    (same : AtTokens (fun inside =>
      (read? (inside ++ one)).map Prod.fst = (read? (inside ++ other)).map Prod.fst) atStart text) :
    (∃ found, (findAll read? atStart 0 (text ++ one)).head? = some found ∧
        (findAll read? atStart 0 (text ++ other)).head? = some found) ∨
      (findAll read? atStart 0 (text ++ one) = findAll read? (startBehind atStart text) 0 one ∧
        findAll read? atStart 0 (text ++ other) = findAll read? (startBehind atStart text) 0 other) := by
  induction text generalizing atStart with
  | nil => exact .inr ⟨rfl, rfl⟩
  | cons character text ih =>
      rw [List.cons_append, List.cons_append]
      cases atStart with
      | false => exact ih same.2
      | true =>
          have here : (read? (character :: (text ++ one))).map Prod.fst =
              (read? (character :: (text ++ other))).map Prod.fst := same.1 rfl
          rw [findAll_start, findAll_start]
          cases first : read? (character :: (text ++ one)) with
          | none =>
              rw [first, Option.map_none, eq_comm, Option.map_eq_none_iff] at here
              rw [here]
              exact ih same.2
          | some found =>
              rw [first, Option.map_some, eq_comm, Option.map_eq_some_iff] at here
              obtain ⟨second, read, equal⟩ := here
              rw [read]
              exact .inl ⟨found.1, rfl, congrArg some equal⟩

end LoadScript.Curl
