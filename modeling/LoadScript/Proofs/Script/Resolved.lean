import LoadScript.Proofs.Script.Paths
import LoadScript.Proofs.Script.Pieces
import LoadScript.Proofs.Script.Values

/-!
A resolved value is written as one literal, which stands for the value: its texts as they are, and the
references of its placeholders between them.
-/

namespace LoadScript.Script

/-! References. -/

theorem isIdentifierStart_of_isNameStart {character : Char} (isStart : isNameStart character = true) :
    isIdentifierStart character = true := by
  rw [isNameStart] at isStart
  rw [isIdentifierStart, isStart, Bool.true_or]

theorem isUppercase_of_isNameStart {character : Char} (isStart : isNameStart character = true) :
    Text.isUppercase character = character.isUpper := by
  have part : isIdentifierPart character = true := by
    rw [isIdentifierPart, isIdentifierStart_of_isNameStart isStart, Bool.true_or]
  exact forall_sevenBit
    (fun other => isNameStart other = true → Text.isUppercase other = other.isUpper)
    (by decide +kernel) (code_of_isIdentifierPart part).2 isStart

theorem isWordStart_of_isNameStart {character : Char} (isStart : isNameStart character = true) :
    isWordStart character = true := by
  rw [isWordStart, isIdentifierStart_of_isNameStart isStart, Bool.true_or]

theorem IsPlaceholderName.isWord {name : List Char} (isName : IsPlaceholderName name) : IsWord name := by
  cases name with
  | nil => exact isName
  | cons first rest =>
      refine ⟨isWordStart_of_isNameStart isName.1, fun character member => ?_⟩
      have part := isName.2 character member
      rw [isNamePart, Bool.or_eq_true] at part
      rw [isWordPart, Bool.or_eq_true]
      exact part.imp_left isWordStart_of_isNameStart

theorem lex_name {name : List Char} (isName : IsPlaceholderName name) :
    lex (String.ofList name) = some [.word name] := by
  have read := lex_words (List.cons_ne_nil name []) (by simpa using isName.isWord)
  rwa [List.intercalate_singleton] at read

theorem lex_chained {name : List Char} (isName : IsPlaceholderName name) :
    lex (chained (String.ofList name)) =
      some [.word chainStore.toList, .punctuator ['.'], .word name] := by
  have store : IsWord chainStore.toList := ⟨by decide, by decide⟩
  have characters : chained (String.ofList name) =
      String.ofList (['.'].intercalate [chainStore.toList, name]) := by
    apply String.toList_inj.mp
    simp [chained, List.intercalate]
  rw [characters, lex_words (List.cons_ne_nil _ _) (by simpa using ⟨store, isName.isWord⟩)]
  rfl

theorem codeTokens_referenceName {name : List Char} (isName : IsPlaceholderName name) :
    codeTokens (referenceName (String.ofList name)) = referenceTokens name := by
  have environment : isEnvironmentName (String.ofList name) = name.head?.any Char.isUpper := by
    rw [isEnvironmentName, String.toList_ofList]
    cases name with
    | nil => exact absurd isName id
    | cons first rest => simp [isUppercase_of_isNameStart isName.1]
  rw [referenceName, environment, referenceTokens, codeTokens]
  split
  · rw [lex_name isName]
    rfl
  · rw [lex_chained isName]
    rfl

/-! Resolved values. -/

theorem ofParts_toPart (pieces : List Piece)
    (names : ∀ entry ∈ (Gapped.ofPieces pieces).rest, IsPlaceholderName entry.1) :
    Gapped.ofParts id (pieces.map Piece.toPart) = (Gapped.ofPieces pieces).map referenceTokens := by
  induction pieces with
  | nil => rfl
  | cons piece rest ih =>
      cases piece with
      | text value =>
          rw [List.map_cons, Piece.toPart, Gapped.ofParts, ih names, String.toList_ofList]
          rfl
      | placeholder name =>
          have isName : IsPlaceholderName name := names _ List.mem_cons_self
          have others := ih fun entry member => names entry (List.mem_cons_of_mem _ member)
          rw [List.map_cons, Piece.toPart, Gapped.ofParts, others, Expr.tokens,
            codeTokens_referenceName isName]
          rfl

/-- References have no layout. -/
theorem partsText_toPart (unit : String) (level : Int) (pieces : List Piece) :
    partsText unit level (pieces.map Piece.toPart) =
      partsText standardUnit 0 (pieces.map Piece.toPart) := by
  induction pieces with
  | nil => rfl
  | cons piece rest ih => cases piece <;> simp only [List.map_cons, Piece.toPart, partsText, exprText, ih]

theorem layout_resolveTemplate (unit : String) (level : Int) (value : String) :
    exprText unit level (resolveTemplate value) =
      exprText standardUnit 0 (.template (templateParts value)) := by
  rw [resolveTemplate, exprText, exprText, templateParts, partsText_toPart]

theorem isTemplateOf_resolveTemplate (unit : String) (level : Int) (value : String) :
    IsTemplateOf (exprText unit level (resolveTemplate value)) (Gapped.ofPieces (pieces value)) := by
  refine ⟨encloses_template unit level _, Gapped.ofParts templateChars (templateParts value), ?_, ?_⟩
  · rw [layout_resolveTemplate]
    exact lex_template _ (partsAreSafe_piecesFrom 0 value.toList)
  · rw [Gapped.unescape?_ofParts, templateParts, ofParts_toPart _ (Gapped.isCutOf_pieces value).names]

theorem lex_resolveTemplate_literal {value : String} (literal : ¬ HasPlaceholder value.toList)
    (unit : String) (level : Int) :
    lex (exprText unit level (resolveTemplate value)) =
      some [.template true true (templateChars value.toList)] := by
  have parts : Gapped.ofParts templateChars (templateParts value) =
      ⟨templateChars value.toList, []⟩ := by
    by_cases empty : value.toList = []
    · rw [templateParts, pieces, empty]
      rfl
    · rw [templateParts, pieces, piecesFrom_literal literal empty, List.map_singleton, Piece.toPart,
        Gapped.ofParts, String.toList_ofList]
      simp [Gapped.ofParts, Gapped.push]
  rw [layout_resolveTemplate, lex_template (templateParts value) (partsAreSafe_piecesFrom 0 value.toList),
    parts]
  rfl

/-- A value is written as one literal from its first character to its last, as a template or, if that is not
asked for and the value has no placeholder, as a string. The literal inserts the references of the
placeholders and nothing else, and its texts without their escapes are those of the value. -/
theorem resolved_stands_for_value (value : String) (unit : String) (level : Int) :
    ∃ cut : Gapped (List Char),
      (∀ other : Gapped (List Char), other.IsCutOf value.toList ↔ other = cut) ∧
        IsTemplateOf (exprText unit level (resolveTemplate value)) cut ∧
        if cut.rest = [] then IsStringOf (exprText unit level (resolve value)) value.toList
        else IsTemplateOf (exprText unit level (resolve value)) cut := by
  have template := isTemplateOf_resolveTemplate unit level value
  have gaps := Gapped.placeholders_eq_gaps value
  refine ⟨Gapped.ofPieces (pieces value), fun _ => Gapped.isCutOf_iff, template, ?_⟩
  rw [resolve, gaps, List.isEmpty_map]
  split
  · next noParts =>
      rw [noParts, if_pos List.isEmpty_nil, exprText]
      exact isStringOf_quote value
  · next found =>
      rw [if_neg (by simpa using found)]
      exact template

end LoadScript.Script
