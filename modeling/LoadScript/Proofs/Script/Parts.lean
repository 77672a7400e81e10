import LoadScript.Proofs.Script.Pieces
import LoadScript.Script.Parts
import Mathlib.Data.List.Chain
import Mathlib.Data.Set.List

/-!
A value has one split into references and texts, which are the parts of its template.
-/

namespace LoadScript.Script

variable {parts : List Part} {value : String}

/-! Origins. -/

theorem originOf_referenceName (name : String) : originOf (referenceName name) = name.toList := by
  rw [referenceName]
  split
  · next environment =>
      cases dropped : Text.dropStart? (chained "").toList name.toList with
      | none => rw [originOf, dropped, Option.getD_none]
      -- The store starts with a small letter, so no constant of the environment is a name in it.
      | some rest =>
          have store : (chained "").toList = 'e' :: "xtractedVars.".toList := by decide
          rw [isEnvironmentName, Text.eq_append_of_dropStart? dropped, store, List.cons_append,
            List.head?_cons] at environment
          exact absurd environment (by decide)
  · have kept : (chained name).toList = (chained "").toList ++ name.toList := by simp [chained]
    rw [originOf, Text.dropStart?_eq_some_iff.mpr kept, Option.getD_some]

theorem referenceName_injective : Function.Injective referenceName := by
  intro first second same
  apply String.toList_inj.mp
  rw [← originOf_referenceName first, same, originOf_referenceName]

/-! The pieces of a cut. -/

def textPieces (text : List Char) : List Piece := if text = [] then [] else [.text text]

namespace Gapped

variable {cut : Gapped (List Char)} {pieces : List Piece}

def toPieces (cut : Gapped (List Char)) : List Piece :=
  textPieces cut.first ++ cut.rest.flatMap fun entry => .placeholder entry.1 :: textPieces entry.2

theorem toPieces_gap (name : List Char) (cut : Gapped (List Char)) :
    (cut.gap name).toPieces = .placeholder name :: cut.toPieces := by
  simp [toPieces, gap, textPieces]

theorem toPieces_push {text : List Char} (nonempty : text ≠ []) (empty : cut.first = []) :
    (cut.push text).toPieces = .text text :: cut.toPieces := by
  simp [toPieces, push, textPieces, empty, nonempty]

theorem text_mem_toPieces {text : List Char} :
    .text text ∈ cut.toPieces ↔ text ∈ cut.texts ∧ text ≠ [] := by
  have alone (other : List Char) : .text text ∈ textPieces other ↔ text = other ∧ text ≠ [] := by
    rw [textPieces]
    split
    · next empty => simp [empty]
    · next nonempty => simpa using fun same => same ▸ nonempty
  simp [toPieces, texts, alone, ← exists_and_right, or_and_right]

theorem placeholder_mem_toPieces {name : List Char} :
    .placeholder name ∈ cut.toPieces ↔ ∃ entry ∈ cut.rest, entry.1 = name := by
  have alone (text : List Char) : .placeholder name ∉ textPieces text := by
    rw [textPieces]
    split <;> simp
  simp [toPieces, alone]

/-- Pieces are those of their cut if none could be left out and none joined to the next one. -/
theorem toPieces_ofPieces (noEmpty : .text [] ∉ pieces)
    (apart : (pieces.map Piece.toPart).IsChain Part.StandsApart) : (ofPieces pieces).toPieces = pieces := by
  induction pieces with
  | nil => rfl
  | cons piece rest ih =>
      rw [List.mem_cons, not_or] at noEmpty
      rw [List.map_cons, List.isChain_cons] at apart
      cases piece with
      | placeholder name => rw [ofPieces, toPieces_gap, ih noEmpty.2 apart.2]
      | text value =>
          have behind : (ofPieces rest).first = [] := by
            cases rest with
            | nil => rfl
            | cons next others =>
                cases next with
                | text second => exact (apart.1 _ rfl).elim
                | placeholder name => rfl
          rw [ofPieces, toPieces_push (fun empty => noEmpty.1 (congrArg Piece.text empty.symm)) behind,
            ih noEmpty.2 apart.2]

theorem source_ofPieces (pieces : List Piece) :
    (ofPieces pieces).source = (pieces.map Piece.toPart).flatMap Part.source := by
  induction pieces with
  | nil => rfl
  | cons piece rest ih =>
      cases piece with
      | text value =>
          rw [ofPieces, source_push, ih, List.map_cons, List.flatMap_cons, Piece.toPart, Part.source,
            String.toList_ofList]
      | placeholder name =>
          rw [ofPieces, source_gap, ih, List.map_cons, List.flatMap_cons, Piece.toPart, Part.source,
            originOf_referenceName, String.toList_ofList]

end Gapped

/-! The split. -/

theorem isChain_of_partsAreSafe (safe : PartsAreSafe parts) : parts.IsChain Part.StandsApart := by
  induction parts with
  | nil => exact List.isChain_nil
  | cons part rest ih =>
      cases part with
      | insert inserted => exact List.isChain_cons.mpr ⟨fun _ _ => trivial, ih safe.2⟩
      | text value =>
          refine List.isChain_cons.mpr ⟨fun next first => ?_, ih safe.2⟩
          cases next with
          | text second => exact absurd first (safe.1 second)
          | insert inserted => trivial

theorem text_nil_notMem_piecesFrom (skip : Nat) (text : List Char) : .text [] ∉ piecesFrom skip text := by
  fun_induction piecesFrom skip text with
  | case1 => exact List.not_mem_nil
  | case2 skip character rest ih => exact ih
  | case3 character rest name found ih => simpa using ih
  | case4 character rest none ih =>
      generalize piecesFrom 0 rest = behind at ih
      fun_cases pushText character behind with
      | case1 value rest =>
          rw [List.mem_cons, not_or] at ih
          simpa using ih.2
      | case2 pieces noText => simpa using ih

theorem templateParts_apart (value : String) : (templateParts value).IsChain Part.StandsApart :=
  isChain_of_partsAreSafe (partsAreSafe_piecesFrom 0 value.toList)

theorem toPieces_pieces (value : String) : (Gapped.ofPieces (pieces value)).toPieces = pieces value :=
  Gapped.toPieces_ofPieces (text_nil_notMem_piecesFrom 0 value.toList) (templateParts_apart value)

theorem isSplitOf_templateParts (value : String) : IsSplitOf (templateParts value) value := by
  have isCut := Gapped.isCutOf_pieces value
  constructor
  case source =>
    rw [templateParts, ← Gapped.source_ofPieces]
    exact isCut.source
  case references =>
    intro inserted member
    obtain ⟨piece, found, same⟩ := List.mem_map.mp member
    cases piece with
    | text text => cases same
    | placeholder name =>
        cases same
        rw [← toPieces_pieces] at found
        obtain ⟨entry, gap, rfl⟩ := Gapped.placeholder_mem_toPieces.mp found
        exact ⟨entry.1, isCut.names entry gap, rfl⟩
  case texts =>
    intro text member
    obtain ⟨piece, found, same⟩ := List.mem_map.mp member
    cases piece with
    | placeholder name => cases same
    | text characters =>
        cases same
        rw [← toPieces_pieces] at found
        obtain ⟨isText, nonempty⟩ := Gapped.text_mem_toPieces.mp found
        rw [String.toList_ofList]
        exact ⟨by simpa using nonempty, isCut.texts characters isText⟩
  case apart => exact templateParts_apart value

theorem IsSplitOf.exists_pieces (isSplit : IsSplitOf parts value) :
    ∃ pieces : List Piece, pieces.map Piece.toPart = parts := by
  have each : ∀ part ∈ parts, part ∈ Set.range Piece.toPart := by
    intro part member
    cases part with
    | text text => exact ⟨.text text.toList, congrArg Part.text String.ofList_toList⟩
    | insert inserted =>
        obtain ⟨name, -, rfl⟩ := isSplit.references inserted member
        exact ⟨.placeholder name, rfl⟩
  have inRange : parts ∈ Set.range (List.map Piece.toPart) := by
    rw [Set.range_list_map]
    exact each
  exact inRange

theorem IsSplitOf.eq_templateParts (isSplit : IsSplitOf parts value) : parts = templateParts value := by
  obtain ⟨others, rfl⟩ := isSplit.exists_pieces
  have noEmpty : .text [] ∉ others := fun member =>
    (isSplit.texts "" (List.mem_map_of_mem member)).1 rfl
  have whole : (Gapped.ofPieces others).toPieces = others := Gapped.toPieces_ofPieces noEmpty isSplit.apart
  have isCut : (Gapped.ofPieces others).IsCutOf value.toList := by
    constructor
    case source => rw [Gapped.source_ofPieces, isSplit.source]
    case names =>
      intro entry member
      have placed : .placeholder entry.1 ∈ others :=
        whole ▸ Gapped.placeholder_mem_toPieces.mpr ⟨entry, member, rfl⟩
      obtain ⟨name, isName, same⟩ := isSplit.references _ (List.mem_map_of_mem placed)
      have sameName := referenceName_injective (Expr.reference.inj same)
      rwa [String.ofList_injective sameName]
    case texts =>
      intro text member
      by_cases empty : text = []
      · exact empty ▸ Gapped.not_hasPlaceholder_nil
      · have placed : .text text ∈ others := whole ▸ Gapped.text_mem_toPieces.mpr ⟨member, empty⟩
        simpa using (isSplit.texts _ (List.mem_map_of_mem placed)).2
  have same : (pieces value).map Piece.toPart = others.map Piece.toPart := by
    rw [← whole, Gapped.isCutOf_iff.mp isCut, toPieces_pieces]
  exact same.symm

theorem inserted_templateParts (value : String) :
    (templateParts value).filterMap Part.inserted? =
      (placeholders value).map fun name => .reference (referenceName name) := by
  rw [placeholders_eq, templateParts, List.filterMap_map, List.map_filterMap]
  congr 1
  funext piece
  cases piece <;> rfl

/-- The parts of a value are its only split, so they make up the value again. They refer to the placeholders
of the value in their order, and only where there is none is the value resolved to a plain string, itself. -/
theorem templateParts_only_split (value : String) :
    (∀ parts, IsSplitOf parts value ↔ parts = templateParts value) ∧
      (templateParts value).filterMap Part.inserted? =
        (placeholders value).map (fun name => .reference (referenceName name)) ∧
      ∀ text, resolve value = .string text ↔
        (templateParts value).filterMap Part.inserted? = [] ∧ value = text := by
  refine ⟨fun parts => ⟨IsSplitOf.eq_templateParts, ?_⟩, inserted_templateParts value, fun text => ?_⟩
  · rintro rfl
    exact isSplitOf_templateParts value
  · rw [resolve_eq_string_iff, inserted_templateParts, List.map_eq_nil_iff, List.isEmpty_iff]

example : templateParts "$$\x7bA\x7d$\x7bb\x7d$\x7b$\x7bc" =
    [.text "$", .insert (.reference "A"), .insert (.reference "extractedVars.b"), .text "$\x7b$\x7bc"] := by
  rfl

end LoadScript.Script
