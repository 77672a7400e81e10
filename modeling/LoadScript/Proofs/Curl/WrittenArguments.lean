import LoadScript.Curl.Command
import LoadScript.Proofs.Curl.Arguments

/-!
Searching through written arguments: a search finds exactly the arguments of its own flags.
-/

namespace LoadScript.Curl

open Text

variable {α : Type} {letterCase : FlagCase} {names : List String}
  {read? : List Char → Option (α × List Char)}

theorem readBehind_of_head (flags : ∀ name ∈ names, IsFlag name) {text : List Char}
    (other : text.head? ≠ some '-') : readBehind letterCase names read? text = none := by
  rw [readBehind]
  cases found : argument? letterCase names text with
  | none => rfl
  | some argument => exact absurd (argument?_hyphen flags found) other

theorem findAll_blank (flags : ∀ name ∈ names, IsFlag name) {blank : Char} (ends : isBlank blank = true)
    (atStart : Bool) (rest : List Char) :
    findAll (readBehind letterCase names read?) atStart 0 (blank :: rest) =
      findAll (readBehind letterCase names read?) true 0 rest := by
  have other : (blank :: rest).head? ≠ some '-' := by
    rw [List.head?_cons, Ne, Option.some.injEq]
    rintro rfl
    exact absurd ends (by decide)
  have nothing : AtTokens (fun inside => readBehind letterCase names read? (inside ++ rest) = none) atStart
      [blank] := ⟨fun _ => readBehind_of_head flags other, trivial⟩
  have passed := findAll_pass nothing
  rwa [startBehind_cons, ends] at passed

theorem HasNoFlag.of_start {text : List Char} (flagless : HasNoFlag true text) (atStart : Bool) :
    HasNoFlag atStart text :=
  AtTokens.of_start flagless atStart

theorem HasNoFlag.append {atStart : Bool} {first second : List Char}
    (firstFlagless : HasNoFlag atStart first) (secondFlagless : HasNoFlag true second) :
    HasNoFlag atStart (first ++ second) := by
  refine AtTokens.append_iff.mpr ⟨firstFlagless.imp fun _ _ other => ?_, secondFlagless.of_start _⟩
  exact other

theorem HasNoFlag.reads_nothing (flags : ∀ name ∈ names, IsFlag name) {atStart : Bool}
    {text : List Char} (flagless : HasNoFlag atStart text) (rest : List Char) :
    AtTokens (fun inside => readBehind letterCase names read? (inside ++ rest) = none) atStart text :=
  flagless.imp fun _ _ other => readBehind_of_head flags other

structure Argument.IsPlain (argument : Argument) : Prop where
  solid : ∀ letter ∈ argument.flag.toList, isBlank letter = false
  unquoted : IsUnquoted argument.text
  flagless : HasNoFlag false argument.text

theorem argument?_written (flags : ∀ name ∈ names, IsFlag name) {argument : Argument}
    (plain : argument.IsPlain) (rest : List Char) :
    argument? letterCase names (argument.flag.toList ++ ' ' :: '\'' :: rest) =
      if takes letterCase names argument.flag.toList then some ('\'' :: rest) else none := by
  have behind : ('\'' :: rest).dropWhile isBlank = '\'' :: rest :=
    dropWhile_of_stopsAt (stopsAt_cons.mpr (by decide))
  rw [argument?_word flags (by decide) plain.solid, behind]

def marked (text : List Char) : List Char := ' ' :: '\'' :: text ++ ['\'']

theorem hasNoFlag_marked {atStart : Bool} {text : List Char} (flagless : HasNoFlag false text) :
    HasNoFlag atStart (marked text) := by
  have opening : HasNoFlag atStart [' ', '\''] := by
    refine ⟨fun _ => by simp, fun _ => by simp, trivial⟩
  have closing (atStart : Bool) : HasNoFlag atStart ['\''] := ⟨fun _ => by simp, trivial⟩
  have inner : AtTokens (fun inside => (inside ++ ['\'']).head? ≠ some '-') false text :=
    flagless.imp fun _ _ other => other
  have outer := AtTokens.append_iff.mpr ⟨inner, closing _⟩
  exact ⟨opening.1, opening.2.1, outer⟩

theorem findAll_argument (flags : ∀ name ∈ names, IsFlag name) {value? : List Char → Option α}
    (reads : ∀ text rest, IsUnquoted text →
      read? ('\'' :: text ++ '\'' :: rest) = (value? text).map fun value => (value, rest))
    {argument : Argument} (plain : argument.IsPlain) (rest : List Char) :
    findAll (readBehind letterCase names read?) false 0 (argument.chars ++ rest) =
      (if takes letterCase names argument.flag.toList then value? argument.text else none).toList ++
        findAll (readBehind letterCase names read?) false 0 rest := by
  have chars : argument.chars ++ rest = ' ' :: (argument.flag.toList ++ marked argument.text ++ rest) := by
    simp [Argument.chars, marked]
  have behind (atStart : Bool) :
      startBehind atStart (argument.flag.toList ++ marked argument.text) = false := by
    simp [marked, startBehind]
    decide
  have read : readBehind letterCase names read? (argument.flag.toList ++ marked argument.text ++ rest) =
      (if takes letterCase names argument.flag.toList then value? argument.text else none).map
        fun value => (value, rest) := by
    have text : argument.flag.toList ++ marked argument.text ++ rest =
        argument.flag.toList ++ ' ' :: '\'' :: (argument.text ++ '\'' :: rest) := by simp [marked]
    rw [readBehind, text, argument?_written flags plain]
    split
    · exact reads _ _ plain.unquoted
    · rfl
  rw [chars]
  show findAll (readBehind letterCase names read?) true 0
    (argument.flag.toList ++ marked argument.text ++ rest) = _
  cases found : (if takes letterCase names argument.flag.toList then value? argument.text else none) with
  | some value =>
      rw [found] at read
      rw [findAll_hit (by simp [marked]) read, behind]
      rfl
  | none =>
      rw [found] at read
      rw [List.append_assoc] at read
      have start := AtTokens.of_word (fun inside => readBehind letterCase names read? inside = none)
        plain.solid read
      have nothing : AtTokens (fun inside =>
          readBehind letterCase names read? (inside ++ rest) = none) true
          (argument.flag.toList ++ marked argument.text) :=
        AtTokens.append_iff.mpr
          ⟨by simpa using start, (hasNoFlag_marked plain.flagless).reads_nothing flags rest⟩
      rw [findAll_pass nothing, behind]
      rfl

theorem findAll_arguments (flags : ∀ name ∈ names, IsFlag name) {value? : List Char → Option α}
    (reads : ∀ text rest, IsUnquoted text →
      read? ('\'' :: text ++ '\'' :: rest) = (value? text).map fun value => (value, rest))
    {arguments : List Argument} (plain : ∀ argument ∈ arguments, argument.IsPlain) :
    findAll (readBehind letterCase names read?) false 0 (arguments.flatMap Argument.chars) =
      arguments.filterMap fun argument =>
        if takes letterCase names argument.flag.toList then value? argument.text else none := by
  induction arguments with
  | nil => rfl
  | cons argument arguments ih =>
      rw [List.forall_mem_cons] at plain
      rw [List.flatMap_cons, findAll_argument flags reads plain.1, ih plain.2, List.filterMap_cons]
      cases (if takes letterCase names argument.flag.toList then value? argument.text else none) <;> rfl

def addressed (method url : List Char) : List Char :=
  "curl ".toList ++ ("--request".toList ++ (' ' :: method ++ marked url))

theorem startBehind_marked (atStart : Bool) (text : List Char) : startBehind atStart (marked text) = false := by
  rw [marked, startBehind_mark]
  decide

theorem startBehind_addressed (atStart : Bool) (method url : List Char) :
    startBehind atStart (addressed method url) = false := by
  -- The words in front stay variables: a text is no list that could be taken apart.
  have behind (first second third : List Char) :
      startBehind atStart (first ++ (second ++ (third ++ marked url))) = false := by
    rw [startBehind_append, startBehind_append, startBehind_append, startBehind_marked]
  exact behind _ _ _

theorem findAll_addressed (flags : ∀ name ∈ names, IsFlag name)
    (other : takes letterCase names "--request".toList = false) {method url : List Char}
    (methodFlagless : HasNoFlag true method) (urlFlagless : HasNoFlag true url) (rest : List Char) :
    findAll (readBehind letterCase names read?) true 0 (addressed method url ++ rest) =
      findAll (readBehind letterCase names read?) false 0 rest := by
  have start : HasNoFlag true "curl ".toList := by decide
  have request : readBehind letterCase names read? ("--request".toList ++
      ((' ' :: method ++ marked url) ++ rest)) = none := by
    rw [readBehind, List.cons_append, List.cons_append, argument?_word flags (by decide) (by decide), other]
    rfl
  have flag := AtTokens.of_word (fun inside => readBehind letterCase names read? inside = none)
    (by decide) request
  have following : HasNoFlag (startBehind true "--request".toList) (' ' :: method ++ marked url) := by
    refine AtTokens.append_iff.mpr ⟨⟨fun _ => by simp, ?_⟩, hasNoFlag_marked (urlFlagless.of_start false)⟩
    exact methodFlagless.imp fun _ _ other => other
  have nothing : AtTokens (fun inside =>
      readBehind letterCase names read? (inside ++ rest) = none) true (addressed method url) := by
    have begins : startBehind true "curl ".toList = true := by decide
    refine AtTokens.append_iff.mpr ⟨?_, AtTokens.append_iff.mpr ⟨?_, ?_⟩⟩
    · simpa using start.reads_nothing flags (("--request".toList ++ (' ' :: method ++ marked url)) ++ rest)
    · rw [begins]
      simpa using flag
    · rw [begins]
      exact following.reads_nothing flags rest
  rw [findAll_pass nothing, startBehind_addressed]

end LoadScript.Curl
