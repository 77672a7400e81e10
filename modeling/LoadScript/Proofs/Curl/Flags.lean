import LoadScript.Proofs.Curl.Tokens
import LoadScript.Proofs.Text.Cutting
import LoadScript.Proofs.Text.Trimming

/-!
Flags and what follows them. Whether a flag stands in front of a blank is decided without what is behind the
blank, and so is where its argument begins.
-/

namespace LoadScript.Curl

open Text

def isBoundary (character : Char) : Bool := isBlank character || isQuote character

theorem code_of_isBoundary {character : Char} (boundary : isBoundary character = true) :
    (character.toNat ≤ 44 ∨ 133 ≤ character.toNat) ∧ character ≠ 'ſ' := by
  rw [isBoundary, Bool.or_eq_true] at boundary
  rcases boundary with blank | quote
  · refine ⟨?_, ?_⟩
    · simp only [isBlank, blankRanges, Ranges.contains] at blank
      grind
    · rintro rfl
      revert blank
      decide
  · simp only [isQuote, Bool.or_eq_true, decide_eq_true_eq] at quote
    rcases quote with rfl | rfl <;> decide

theorem toLower_of_noCapital {character : Char}
    (noCapital : ¬ (65 ≤ character.toNat ∧ character.toNat ≤ 90)) : character.toLower = character := by
  delta Char.toLower
  split
  · next capital =>
      have least : 65 ≤ character.toNat := UInt32.le_iff_toNat_le.mp capital.1
      have most : character.toNat ≤ 90 := UInt32.le_iff_toNat_le.mp capital.2
      exact absurd ⟨least, most⟩ noCapital
  · rfl

theorem toLower_of_isBoundary {character : Char} (boundary : isBoundary character = true) :
    character.toLower = character := by
  have code := (code_of_isBoundary boundary).1
  exact toLower_of_noCapital (by omega)

structure IsFlag (name : String) : Prop where
  hyphen : name.toList.head? = some '-'
  letters : ∀ letter ∈ name.toList, 45 ≤ letter.toNat ∧ letter.toNat ≤ 122

instance (name : String) : Decidable (IsFlag name) :=
  decidable_of_iff (name.toList.head? = some '-' ∧
    ∀ letter ∈ name.toList, 45 ≤ letter.toNat ∧ letter.toNat ≤ 122)
    ⟨fun both => ⟨both.1, both.2⟩, fun flag => ⟨flag.hyphen, flag.letters⟩⟩

theorem header_flags : ∀ name ∈ ["--header", "-H"], IsFlag name := by decide

theorem user_flags : ∀ name ∈ ["--user", "-u"], IsFlag name := by decide

theorem form_flags : ∀ name ∈ ["--form", "-F"], IsFlag name := by decide

theorem rawData_flags : ∀ name ∈ ["--data-raw"], IsFlag name := by decide

theorem data_flags : ∀ name ∈ ["--data", "-d"], IsFlag name := by decide

theorem method_flags : ∀ name ∈ ["--request", "-x"], IsFlag name := by decide

variable {letter character : Char} {letterCase : FlagCase} {name : String}

theorem ne_of_isBoundary (plain : 45 ≤ letter.toNat ∧ letter.toNat ≤ 122)
    (boundary : isBoundary character = true) : letter ≠ character := by
  rintro rfl
  have := (code_of_isBoundary boundary).1
  omega

theorem sameLetter_of_isBoundary (plain : 45 ≤ letter.toNat ∧ letter.toNat ≤ 122)
    (boundary : isBoundary character = true) : sameLetter letter character = false := by
  have other := ne_of_isBoundary plain boundary
  simp [sameLetter, toLower_of_isBoundary boundary, other.symm, (code_of_isBoundary boundary).2]

theorem dropWord?_append {letters : List Char} (text rest : List Char)
    (apart : ∀ letter ∈ letters, sameLetter letter character = false) :
    dropWord? letters (text ++ character :: rest) =
      (dropWord? letters text).map (· ++ character :: rest) := by
  induction letters generalizing text with
  | nil => rfl
  | cons letter letters ih =>
      rw [List.forall_mem_cons] at apart
      cases text with
      | nil => simp [dropWord?, apart.1]
      | cons first text =>
          rw [List.cons_append, dropWord?, dropWord?]
          split
          · exact ih text apart.2
          · rfl

theorem dropWord?_suffix {letters text rest : List Char}
    (dropped : dropWord? letters text = some rest) : rest <:+ text := by
  fun_induction dropWord? letters text with
  | case1 text =>
      cases dropped
      exact List.suffix_refl _
  | case2 => cases dropped
  | case3 letter letters first text same ih => exact (ih dropped).trans (List.suffix_cons _ _)
  | case4 => cases dropped

theorem dropFlag?_append (flag : IsFlag name) (boundary : isBoundary character = true)
    (text rest : List Char) :
    dropFlag? letterCase name (text ++ character :: rest) =
      (dropFlag? letterCase name text).map (· ++ character :: rest) := by
  cases letterCase with
  | exact =>
      exact dropStart?_append text rest fun letter found =>
        ne_of_isBoundary (flag.letters letter found) boundary
  | either =>
      exact dropWord?_append text rest fun letter found =>
        sameLetter_of_isBoundary (flag.letters letter found) boundary

theorem eq_hyphen_of_sameLetter (same : sameLetter '-' character = true) : character = '-' := by
  simp only [sameLetter, Bool.or_eq_true, decide_eq_true_eq, Bool.and_eq_true] at same
  rcases same with lower | ⟨absurdity, -⟩
  · delta Char.toLower at lower
    split at lower
    · next capital =>
        have least : 65 ≤ character.toNat := UInt32.le_iff_toNat_le.mp capital.1
        have most : character.toNat ≤ 90 := UInt32.le_iff_toNat_le.mp capital.2
        have code : (character.val + 32).toNat = 45 := congrArg Char.toNat lower
        have small : character.val.toNat = character.toNat := rfl
        rw [UInt32.toNat_add] at code
        simp only [UInt32.reduceToNat] at code
        omega
    · exact lower
  · exact absurd absurdity (by decide)

theorem dropFlag?_hyphen (flag : IsFlag name) {text rest : List Char}
    (dropped : dropFlag? letterCase name text = some rest) : text.head? = some '-' := by
  have hyphen := flag.hyphen
  cases letters : name.toList with
  | nil =>
      rw [letters] at hyphen
      cases hyphen
  | cons letter others =>
      rw [letters, List.head?_cons, Option.some.injEq] at hyphen
      subst hyphen
      cases text with
      | nil => cases letterCase <;> simp [dropFlag?, letters, dropStart?, dropWord?] at dropped
      | cons first text =>
          have same : first = '-' := by
            cases letterCase with
            | exact =>
                rw [dropFlag?, letters, dropStart?] at dropped
                split at dropped
                · next same => exact same.symm
                · cases dropped
            | either =>
                rw [dropFlag?, letters, dropWord?] at dropped
                split at dropped
                · next same => exact eq_hyphen_of_sameLetter same
                · cases dropped
          rw [same]
          rfl

def behindBlanks? : List Char → Option (List Char)
  | blank :: rest => if isBlank blank then some (rest.dropWhile isBlank) else none
  | [] => none

def extended (rest : List Char) : (argument : List Char) → List Char
  | [] => rest.dropWhile isBlank
  | first :: others => first :: others ++ rest

theorem dropWhile_extended (text rest : List Char) :
    (text ++ rest).dropWhile isBlank = extended rest (text.dropWhile isBlank) := by
  rw [List.dropWhile_append]
  cases text.dropWhile isBlank <;> rfl

theorem behindBlanks?_extended (behind rest : List Char) (character : Char) :
    behindBlanks? (behind ++ character :: rest) =
      (behindBlanks? (behind ++ [character])).map (extended rest) := by
  cases behind with
  | nil =>
      simp only [List.nil_append, behindBlanks?]
      split <;> rfl
  | cons blank behind =>
      have moved : behind ++ character :: rest = behind ++ [character] ++ rest := by simp
      simp only [List.cons_append, behindBlanks?]
      split
      · rw [moved, dropWhile_extended]
        rfl
      · rfl

theorem behindBlanks?_append {behind : List Char} (rest : List Char)
    (settled : behindBlanks? (behind ++ [character]) ≠ some []) :
    behindBlanks? (behind ++ character :: rest) =
      (behindBlanks? behind).map (· ++ character :: rest) := by
  cases behind with
  | nil =>
      simp only [List.nil_append, behindBlanks?] at settled ⊢
      split
      · next blank =>
          rw [if_pos blank] at settled
          exact absurd rfl settled
      · rfl
  | cons blank behind =>
      simp only [List.cons_append, behindBlanks?] at settled ⊢
      split
      · next isBlank =>
          rw [if_pos isBlank, List.dropWhile_append] at settled
          rw [List.dropWhile_append]
          split
          · next dropped =>
              rw [if_pos dropped] at settled
              have solid : Text.isBlank character = false := by
                rw [← Bool.not_eq_true]
                intro blank
                exact settled (by simp [blank])
              simp [List.isEmpty_iff.mp dropped, solid]
          · rfl
      · rfl

theorem dropFlag?_suffix {text rest : List Char} (dropped : dropFlag? letterCase name text = some rest) :
    rest <:+ text := by
  cases letterCase with
  | exact => exact dropStart?_suffix dropped
  | either => exact dropWord?_suffix dropped

variable {names : List String}

theorem argument?_cons (name : String) (names : List String) (text : List Char) :
    argument? letterCase (name :: names) text =
      ((dropFlag? letterCase name text).bind behindBlanks?).or (argument? letterCase names text) := by
  rw [argument?, List.findSome?_cons]
  cases dropFlag? letterCase name text with
  | none => rfl
  | some behind =>
      cases behind with
      | nil => rfl
      | cons blank rest =>
          simp only [Option.bind_some, behindBlanks?]
          cases isBlank blank <;> rfl

theorem argument?_append (flags : ∀ name ∈ names, IsFlag name) (boundary : isBoundary character = true)
    (text rest : List Char) :
    argument? letterCase names (text ++ character :: rest) =
      (argument? letterCase names (text ++ [character])).map (extended rest) := by
  induction names with
  | nil => rfl
  | cons name names ih =>
      rw [List.forall_mem_cons] at flags
      rw [argument?_cons, argument?_cons, ih flags.2, dropFlag?_append flags.1 boundary,
        dropFlag?_append flags.1 boundary]
      cases dropFlag? letterCase name text with
      | none => rfl
      | some behind =>
          simp only [Option.map_some, Option.bind_some, behindBlanks?_extended behind rest]
          cases behindBlanks? (behind ++ [character]) <;> rfl

/-- A text that does not end where an argument is still to come has its arguments for itself. -/
theorem argument?_append_of_settled (flags : ∀ name ∈ names, IsFlag name)
    (boundary : isBoundary character = true) {text : List Char} (rest : List Char)
    (settled : argument? letterCase names (text ++ [character]) ≠ some []) :
    argument? letterCase names (text ++ character :: rest) =
      (argument? letterCase names text).map (· ++ character :: rest) := by
  induction names with
  | nil => rfl
  | cons name names ih =>
      rw [List.forall_mem_cons] at flags
      rw [argument?_cons, dropFlag?_append flags.1 boundary] at settled
      rw [argument?_cons, argument?_cons, dropFlag?_append flags.1 boundary]
      cases dropped : dropFlag? letterCase name text with
      | none =>
          rw [dropped] at settled
          exact ih flags.2 settled
      | some behind =>
          rw [dropped] at settled
          simp only [Option.map_some, Option.bind_some] at settled ⊢
          rw [behindBlanks?_append rest fun awaited => settled (by rw [awaited]; rfl)]
          cases found : behindBlanks? behind with
          | some argument => rfl
          | none =>
              rw [behindBlanks?_append [] fun awaited => settled (by rw [awaited]; rfl), found] at settled
              exact ih flags.2 settled

def takes (letterCase : FlagCase) (names : List String) (word : List Char) : Bool :=
  names.any fun name => dropFlag? letterCase name word == some []

theorem takes_cons (name : String) (names : List String) (word : List Char) :
    takes letterCase (name :: names) word =
      (dropFlag? letterCase name word == some [] || takes letterCase names word) := rfl

theorem argument?_word (flags : ∀ name ∈ names, IsFlag name) {blank : Char}
    (ends : isBlank blank = true) {word : List Char}
    (solid : ∀ letter ∈ word, isBlank letter = false) (rest : List Char) :
    argument? letterCase names (word ++ blank :: rest) =
      if takes letterCase names word then some (rest.dropWhile isBlank) else none := by
  induction names with
  | nil => rfl
  | cons name names ih =>
      rw [List.forall_mem_cons] at flags
      rw [argument?_cons, ih flags.2, dropFlag?_append flags.1 (by simp [isBoundary, ends]), takes_cons]
      cases dropped : dropFlag? letterCase name word with
      | none => rfl
      | some behind =>
          cases behind with
          | nil => simp [behindBlanks?, ends]
          | cons letter behind =>
              have inside : letter ∈ word := (dropFlag?_suffix dropped).subset List.mem_cons_self
              simp [behindBlanks?, solid letter inside]

theorem argument?_of_solid {text : List Char} (solid : ∀ letter ∈ text, isBlank letter = false) :
    argument? letterCase names text = none := by
  induction names with
  | nil => rfl
  | cons name names ih =>
      rw [argument?_cons, ih]
      cases dropped : dropFlag? letterCase name text with
      | none => rfl
      | some behind =>
          cases behind with
          | nil => rfl
          | cons letter behind =>
              have inside : letter ∈ text := (dropFlag?_suffix dropped).subset List.mem_cons_self
              simp [behindBlanks?, solid letter inside]

theorem argument?_hyphen (flags : ∀ name ∈ names, IsFlag name) {text argument : List Char}
    (read : argument? letterCase names text = some argument) : text.head? = some '-' := by
  induction names with
  | nil => cases read
  | cons name names ih =>
      rw [List.forall_mem_cons] at flags
      rw [argument?_cons] at read
      cases dropped : dropFlag? letterCase name text with
      | none =>
          rw [dropped] at read
          exact ih flags.2 read
      | some behind => exact dropFlag?_hyphen flags.1 dropped

theorem argument?_suffix {text argument : List Char}
    (read : argument? letterCase names text = some argument) : argument <:+ text := by
  induction names with
  | nil => cases read
  | cons name names ih =>
      rw [argument?_cons, Option.or_eq_some_iff] at read
      rcases read with here | ⟨-, later⟩
      · obtain ⟨behind, dropped, blanks⟩ := Option.bind_eq_some_iff.mp here
        have inside : behind <:+ text := dropFlag?_suffix dropped
        cases behind with
        | nil => cases blanks
        | cons blank rest =>
            rw [behindBlanks?] at blanks
            split at blanks
            · cases blanks
              exact ((List.dropWhile_suffix isBlank).trans (List.suffix_cons blank rest)).trans inside
            · cases blanks
      · exact ih later

end LoadScript.Curl
