import LoadScript.Proofs.Script.Resolved
import LoadScript.Script.Evaluation

/-!
A resolved value stands for the value with its placeholders filled in.
-/

namespace LoadScript.Script

variable {values : Values}

theorem referenceValue?_referenceTokens (values : Values) (name : List Char) :
    referenceValue? values (referenceTokens name) = some (values name) := by
  rw [referenceTokens]
  split <;> rfl

/-! Templates. -/

def Token.endsInsertion : Token → Bool
  | .template false _ _ => true
  | _ => false

theorem insertionsValue?_append {tokens : List Token}
    (inside : ∀ token ∈ tokens, token.endsInsertion = false) (inserted rest : List Token) :
    insertionsValue? values inserted (tokens ++ rest) =
      insertionsValue? values (inserted ++ tokens) rest := by
  induction tokens generalizing inserted with
  | nil => rw [List.nil_append, List.append_nil]
  | cons token tokens ih =>
      rw [List.forall_mem_cons] at inside
      rw [List.cons_append, insertionsValue?, ih inside.2, List.append_assoc, List.singleton_append]
      rintro closes content rfl
      cases inside.1

theorem referenceTokens_inside (name : List Char) :
    ∀ token ∈ referenceTokens name, token.endsInsertion = false := by
  rw [referenceTokens]
  split <;> simp [Token.endsInsertion]

/-- The texts of a template count with unified line ends, and its insertions with the values of their
references. -/
theorem insertionsValue?_insertionTokens (values : Values) (rest : List (List Char × List Char)) :
    ∀ name text,
      insertionsValue? values [] (referenceTokens name ++ insertionTokens false (templateChars text)
          (rest.map fun entry => (referenceTokens entry.1, templateChars entry.2))) =
        some (values name ++ Text.unifyLineEndsOf text ++
          rest.flatMap fun entry => values entry.1 ++ Text.unifyLineEndsOf entry.2) := by
  induction rest with
  | nil =>
      intro name text
      rw [insertionsValue?_append (referenceTokens_inside name), List.map_nil, insertionTokens,
        insertionsValue?, List.nil_append, referenceValue?_referenceTokens, templateValue?_templateChars]
      simp
  | cons entry rest ih =>
      intro name text
      rw [insertionsValue?_append (referenceTokens_inside name), List.map_cons, insertionTokens,
        List.cons_append, insertionsValue?, List.nil_append, referenceValue?_referenceTokens,
        templateValue?_templateChars, ih entry.1 entry.2]
      simp

namespace Gapped

theorem ofParts_eq_mapTexts {spell : List Char → List Char} (nothing : spell [] = []) {parts : List Part}
    (safe : PartsAreSafe parts) : ofParts spell parts = (ofParts id parts).mapTexts spell := by
  induction parts with
  | nil => simp [ofParts, mapTexts, nothing]
  | cons part rest ih =>
      cases part with
      | text value =>
          have behind := ih safe.2
          have apart : (ofParts id rest).first = [] := by
            cases rest with
            | nil => rfl
            | cons next others =>
                cases next with
                | text second => exact absurd rfl (safe.1 second)
                | insert inserted => rfl
          rw [ofParts, ofParts, behind]
          simp [push, mapTexts, apart, nothing]
      | insert value =>
          rw [ofParts, ofParts, ih safe.2]
          simp [gap, mapTexts, nothing]

end Gapped

theorem codeValue?_resolveTemplate (values : Values) (unit : String) (level : Int) (value : String) :
    codeValue? values (exprText unit level (resolveTemplate value)) =
      some (((Gapped.ofPieces (pieces value)).mapTexts Text.unifyLineEndsOf).fill values) := by
  have safe : PartsAreSafe (templateParts value) := partsAreSafe_piecesFrom 0 value.toList
  have parts : Gapped.ofParts templateChars (templateParts value) =
      ((Gapped.ofPieces (pieces value)).map referenceTokens).mapTexts templateChars := by
    rw [Gapped.ofParts_eq_mapTexts rfl safe, templateParts,
      ofParts_toPart _ (Gapped.isCutOf_pieces value).names]
  rw [codeValue?, layout_resolveTemplate, lex_template _ safe, parts, Option.bind_some, Gapped.tokens]
  generalize Gapped.ofPieces (pieces value) = cut
  obtain ⟨first, rest⟩ := cut
  cases rest with
  | nil =>
      simp [Gapped.map, Gapped.mapTexts, Gapped.fill, insertionTokens, tokensValue?,
        templateValue?_templateChars]
  | cons entry rest =>
      have others := insertionsValue?_insertionTokens values rest entry.1 entry.2
      simp only [Gapped.map, Gapped.mapTexts, List.map_cons, List.map_map, Function.comp_def,
        insertionTokens, List.cons_append, tokensValue?, templateValue?_templateChars, others]
      simp [Gapped.fill, List.flatMap_map]

theorem codeValue?_string (values : Values) (value : String) :
    codeValue? values (quote value) = some value.toList := by
  obtain ⟨-, content, read, means⟩ := isStringOf_quote value
  rw [codeValue?, read]
  exact means

namespace Gapped

theorem mapTexts_unifyLineEndsOf {cut : Gapped (List Char)} {text : List Char}
    (isCut : cut.IsCutOf text) (noCarriage : '\r' ∉ text) :
    cut.mapTexts Text.unifyLineEndsOf = cut := by
  rw [← isCut.source, source, List.mem_append, not_or] at noCarriage
  have first := Text.unifyLineEndsOf_eq_self_iff.mpr noCarriage.1
  have behind (entry : List Char × List Char) (member : entry ∈ cut.rest) :
      (entry.1, Text.unifyLineEndsOf entry.2) = entry := by
    have noReturn : '\r' ∉ entry.2 := fun inside =>
      noCarriage.2 (List.mem_flatMap.mpr ⟨entry, member, List.mem_append_right _ inside⟩)
    rw [Text.unifyLineEndsOf_eq_self_iff.mpr noReturn]
  rw [mapTexts, first, List.map_congr_left behind, List.map_id']

/-! Ends. -/

theorem source_concat (first : List Char) (start : List (List Char × List Char))
    (name behind : List Char) :
    source ⟨first, start ++ [(name, behind)]⟩ =
      source ⟨first, start⟩ ++ placeholderText name ++ behind := by
  simp [source]

theorem fill_concat (values : Values) (first : List Char) (start : List (List Char × List Char))
    (name behind : List Char) :
    fill values ⟨first, start ++ [(name, behind)]⟩ =
      fill values ⟨first, start⟩ ++ values name ++ behind := by
  simp [fill]

/-- A text that ends in no placeholder ends in the same character when its gaps are filled. -/
theorem getLast?_fill {cut : Gapped (List Char)} {text : List Char} {character : Char}
    (isCut : cut.IsCutOf text) (noFeed : character ≠ '\n')
    (last : ((cut.mapTexts Text.unifyLineEndsOf).fill values).getLast? = some character) :
    text.getLast? = some character ∨ EndsInPlaceholder text := by
  rw [← isCut.source]
  obtain ⟨first, rest⟩ := cut
  rcases List.eq_nil_or_concat' rest with rfl | ⟨start, ⟨name, behind⟩, rfl⟩
  · rw [mapTexts, fill, List.map_nil, List.flatMap_nil, List.append_nil] at last
    rw [source, List.flatMap_nil, List.append_nil]
    exact .inl (Text.getLast?_unifyLineEndsOf last noFeed)
  · rw [source_concat]
    by_cases nothing : behind = []
    · rw [nothing, List.append_nil]
      exact .inr ⟨name, isCut.names (name, behind) (by simp), List.suffix_append _ _⟩
    · rw [mapTexts, List.map_append, List.map_singleton, fill_concat,
        List.getLast?_append_of_ne_nil _ (mt Text.unifyLineEndsOf_eq_nil nothing)] at last
      rw [List.getLast?_append_of_ne_nil _ nothing]
      exact .inl (Text.getLast?_unifyLineEndsOf last noFeed)

end Gapped

/-- What a resolved value stands for ends as the value does, unless the value ends in a placeholder. -/
theorem exists_codeValue?_resolve (values : Values) (unit : String) (level : Int) (value : String) :
    ∃ meant, codeValue? values (exprText unit level (resolve value)) = some meant ∧
      ∀ character, character ≠ '\n' → meant.getLast? = some character →
        value.toList.getLast? = some character ∨ EndsInPlaceholder value.toList := by
  rw [resolve]
  split
  · exact ⟨_, codeValue?_string values value, fun _ _ last => .inl last⟩
  · exact ⟨_, codeValue?_resolveTemplate values unit level value, fun _ noFeed last =>
      Gapped.getLast?_fill (Gapped.isCutOf_pieces value) noFeed last⟩

end LoadScript.Script
