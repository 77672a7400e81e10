import LoadScript.Proofs.Script.Paths
import LoadScript.Proofs.Script.Values

/-!
When the texts of a template stay texts. Every text is escaped by itself, so that a dollar sign at the end of
one and a curly bracket at the start of the next make an insertion. Nothing else goes wrong, wherever a text
is cut.
-/

namespace LoadScript.Script

variable {unit : String} {level : Int} {value : Expr} {parts : List Part}

/-! What is inserted. -/

theorem standsFor_tokens (operand : value.IsPathOrString) : StandsFor value.tokens value := by
  cases value with
  | reference name =>
      rw [Expr.tokens, codeTokens_path operand]
      exact .path name
  | string value =>
      rw [Expr.tokens]
      exact .string (unescape_quoted value.toList)
  | _ => exact absurd operand id

/-- Paths and strings have no layout. -/
theorem spells_operand (operand : value.IsPathOrString) (unit : String) (level : Int)
    (insertions : List Nat) : Spells insertions (exprText unit level value) value.tokens := by
  cases value with
  | reference name =>
      rw [exprText, Expr.tokens]
      exact spells_verbatim (isVerbatim_path operand true) (.inr rfl)
  | string value =>
      rw [exprText, Expr.tokens]
      exact (reads_quote value).spells
  | _ => exact absurd operand id

theorem StandsFor.length_eq {first second : List Token} (stands : StandsFor first value)
    (also : StandsFor second value) : first.length = second.length := by
  cases stands <;> cases also <;> rfl

theorem stands_ofParts (operands : ∀ value, Part.insert value ∈ parts → value.IsPathOrString) :
    unescape (Gapped.ofParts templateChars parts).first = some (Gapped.ofTemplate parts).first ∧
      List.Forall₂ StandsForGap (Gapped.ofParts templateChars parts).rest (Gapped.ofTemplate parts).rest := by
  induction parts with
  | nil => exact ⟨rfl, .nil⟩
  | cons part others ih =>
      obtain ⟨first, rest⟩ := ih fun value member => operands value (List.mem_cons_of_mem _ member)
      cases part with
      | text value =>
          refine ⟨?_, rest⟩
          rw [Gapped.ofParts, Gapped.push, unescape_templateChars, first]
          rfl
      | insert value =>
          exact ⟨rfl, .cons ⟨standsFor_tokens (operands value List.mem_cons_self), first⟩ rest⟩

/-! What is written. -/

theorem partsText_text_append (unit : String) (level : Int) (value : String) (others : List Part)
    (rest : List Char) :
    (partsText unit level (.text value :: others)).toList ++ rest =
      templateChars value.toList ++ ((partsText unit level others).toList ++ rest) := by
  simp [partsText, templateText]

theorem head?_partsText_iff (unit : String) (level : Int) (parts : List Part) :
    ((partsText unit level parts).toList ++ ['\x60']).head? = some '\x7b' ↔
      firstOfTexts? parts = some '\x7b' := by
  induction parts with
  | nil => simp [partsText, firstOfTexts?]
  | cons part others ih =>
      cases part with
      | insert value => simp [partsText, firstOfTexts?]
      | text value =>
          rw [partsText_text_append, firstOfTexts?]
          cases value.toList with
          | nil => exact ih
          | cons character behind =>
              rcases templateChars_cons character behind with ⟨spelled, marked⟩ | ⟨spelled, _⟩
              · have other : character ≠ '\x7b' := by
                  rintro rfl
                  exact absurd marked (by decide)
                simp [spelled, other]
              · simp [spelled]

theorem templateChars_dollar (value : List Char) :
    templateChars (value ++ ['$']) = templateChars value ++ ['$'] := by
  fun_induction templateChars value with
  | case1 => rfl
  | case2 others ih => simp [templateChars, ih]
  | case3 character others noInsertion special ih =>
      rw [List.cons_append, templateChars, if_pos special, ih]
      · rfl
      · rintro behind rfl same
        exact absurd special (by decide)
  | case4 character others noInsertion plain ih =>
      rw [List.cons_append, templateChars, if_neg plain, ih]
      · rfl
      · rintro behind rfl same
        cases others with
        | nil => simp at same
        | cons next others =>
            rw [List.cons_append, List.cons.injEq] at same
            exact noInsertion others rfl (by rw [same.1])

/-! Texts that keep apart. -/

theorem lexFrom_apart (operands : ∀ value, Part.insert value ∈ parts → value.IsPathOrString)
    (apart : TextsKeepApart parts) (unit : String) (level : Int) : ∀ opens content,
    lexFrom ⟨.template opens content, []⟩ ((partsText unit level parts).toList ++ ['\x60']) =
      some (partTokens opens content parts) := by
  induction parts with
  | nil => intro opens content; simp [partsText, partTokens, lexFrom, step, templateMode, finish, Mode.pending]
  | cons part others ih =>
      intro opens content
      have operandsBehind : ∀ value, Part.insert value ∈ others → value.IsPathOrString :=
        fun value member => operands value (List.mem_cons_of_mem _ member)
      cases part with
      | text value =>
          have noBracket := mt (head?_partsText_iff unit level others).mp
          rw [partsText_text_append, partTokens,
            lexFrom_templateChars _ fun last => noBracket (apart.1 last)]
          exact ih operandsBehind apart.2 opens _
      | insert value =>
          have operand := operands value List.mem_cons_self
          rw [partsText_insert_append, lexFrom_insertion (spells_operand operand unit level [0]),
            ih operandsBehind apart, partTokens]
          rfl

theorem isTemplateFor_of_apart (operands : ∀ value, Part.insert value ∈ parts → value.IsPathOrString)
    (apart : TextsKeepApart parts) (unit : String) (level : Int) :
    IsTemplateFor (exprText unit level (.template parts)) (Gapped.ofTemplate parts) := by
  refine ⟨encloses_template unit level parts, Gapped.ofParts templateChars parts, ?_, stands_ofParts operands⟩
  rw [lex_templateText, lexFrom_apart operands apart, Gapped.partTokens_eq]
  rfl

theorem text_of_insertionTokens {opens first closes : Bool} {text content : List Char}
    {gaps : List (List Token × List Char)} {others : List Token}
    (same : insertionTokens opens text gaps = .template first closes content :: others) :
    text = content := by
  cases gaps with
  | nil =>
      rw [insertionTokens] at same
      cases same
      rfl
  | cons gap gaps =>
      rw [insertionTokens] at same
      cases same
      rfl

/-- A dollar sign and a curly bracket that meet make an insertion, and the literal has the text before them. -/
theorem text_of_meet {opens : Bool} {content start behind text : List Char}
    {gaps : List (List Token × List Char)}
    (read : lexFrom ⟨.template opens content, []⟩ (templateChars (start ++ ['$']) ++ '\x7b' :: behind) =
      some (insertionTokens opens text gaps)) : text = content ++ templateChars start := by
  have opening : advance ⟨.template opens (content ++ templateChars start), []⟩ ['$', '\x7b'] =
      some ([.template opens false (content ++ templateChars start)], ⟨.between, [0]⟩) := rfl
  have opened := lexFrom_advance opening behind
  rw [templateChars_dollar, List.append_assoc, lexFrom_templateChars start fun _ => by simp] at read
  obtain ⟨later, _, same⟩ := Option.map_eq_some_iff.mp (opened.symm.trans read)
  exact text_of_insertionTokens same.symm

/-- Where a dollar sign and a curly bracket meet, the literal has less text than the template. -/
theorem apart_of_read (operands : ∀ value, Part.insert value ∈ parts → value.IsPathOrString)
    (unit : String) (level : Int) :
    ∀ opens content before text gaps,
      (∀ rest, unescape (content ++ rest) = (unescape rest).map (before ++ ·)) →
      lexFrom ⟨.template opens content, []⟩ ((partsText unit level parts).toList ++ ['\x60']) =
        some (insertionTokens opens text gaps) →
      unescape text = some (before ++ (Gapped.ofTemplate parts).first) →
      List.Forall₂ StandsForGap gaps (Gapped.ofTemplate parts).rest →
      TextsKeepApart parts := by
  induction parts with
  | nil => intros; trivial
  | cons part others ih =>
      intro opens content before text gaps means read first rest
      have behind := ih fun value member => operands value (List.mem_cons_of_mem _ member)
      cases part with
      | text value =>
          rw [partsText_text_append] at read
          rw [Gapped.ofTemplate, Gapped.push] at first rest
          have longer : ∀ rest, unescape (content ++ templateChars value.toList ++ rest) =
              (unescape rest).map (before ++ value.toList ++ ·) := by
            intro rest
            rw [List.append_assoc, means, unescape_templateChars, Option.map_map]
            simp [Function.comp_def]
          by_cases meet : value.toList.getLast? = some '$' ∧ firstOfTexts? others = some '\x7b'
          · obtain ⟨start, ends⟩ := List.getLast?_eq_some_iff.mp meet.1
            obtain ⟨bracket, starts⟩ :=
              List.head?_eq_some_iff.mp ((head?_partsText_iff unit level others).mpr meet.2)
            rw [ends, starts] at read
            have short := unescape_templateChars start []
            rw [List.append_nil] at short
            rw [text_of_meet read, means, short, ends] at first
            simp [unescape] at first
          · have apart : value.toList.getLast? = some '$' → firstOfTexts? others ≠ some '\x7b' :=
              fun last bracket => meet ⟨last, bracket⟩
            have noBracket := mt (head?_partsText_iff unit level others).mp
            rw [lexFrom_templateChars _ fun last => noBracket (apart last)] at read
            rw [← List.append_assoc] at first
            exact ⟨apart, behind opens _ _ text gaps longer read first rest⟩
      | insert value =>
          have operand := operands value List.mem_cons_self
          rw [Gapped.ofTemplate, Gapped.gap] at rest
          obtain ⟨⟨inserted, next⟩, gaps, ⟨stands, nextFirst⟩, nextRest, rfl⟩ :=
            List.forall₂_cons_right_iff.mp rest
          rw [partsText_insert_append, lexFrom_insertion (spells_operand operand unit level [0])] at read
          obtain ⟨later, readLater, same⟩ := Option.map_eq_some_iff.mp read
          rw [insertionTokens, List.append_assoc, List.singleton_append, List.cons_append,
            List.cons.injEq] at same
          have behindSame := (List.append_inj same.2 ((standsFor_tokens operand).length_eq stands)).2
          rw [behindSame] at readLater
          exact behind false [] [] next gaps (fun rest => by simp) readLater nextFirst nextRest

theorem apart_of_isTemplateFor (operands : ∀ value, Part.insert value ∈ parts → value.IsPathOrString)
    {unit : String} {level : Int}
    (stands : IsTemplateFor (exprText unit level (.template parts)) (Gapped.ofTemplate parts)) :
    TextsKeepApart parts := by
  obtain ⟨_, literal, read, first, rest⟩ := stands
  rw [lex_templateText] at read
  exact apart_of_read operands unit level true [] [] _ _ (by simp) read first rest

/-- A template of texts, paths and strings, in any order and number, is written as one template literal. The
literal inserts what the template inserts and nothing else, and its texts without escapes are those of the
template, unless one that ends in a dollar sign comes before one that starts with a curly bracket. -/
theorem template_stands_for_parts (operands : ∀ value, Part.insert value ∈ parts → value.IsPathOrString)
    (unit : String) (level : Int) :
    IsTemplateFor (exprText unit level (.template parts)) (Gapped.ofTemplate parts) ↔
      TextsKeepApart parts :=
  ⟨apart_of_isTemplateFor operands, fun apart => isTemplateFor_of_apart operands apart unit level⟩

theorem template_stands_for_parts_mixed :
    let parts : List Part :=
      [.text "a$", .insert (.reference "extractedVars.id"), .text "\x7b\x60", .text "", .text "$\x7bx\x7d",
        .insert (.string "it's")]
    (∀ value, Part.insert value ∈ parts → value.IsPathOrString) ∧
      IsTemplateFor (exprText standardUnit 0 (.template parts))
        ⟨"a$".toList, [(.reference "extractedVars.id", "\x7b\x60$\x7bx\x7d".toList),
          (.string "it's", [])]⟩ := by
  intro parts
  have path : IsPath "extractedVars.id" := by decide
  have operands : ∀ value, Part.insert value ∈ parts → value.IsPathOrString := by
    simp [parts, Expr.IsPathOrString, path]
  exact ⟨operands, (template_stands_for_parts operands standardUnit 0).mpr (by decide)⟩

/-- Two texts that are no insertion by themselves make one, and the template has none. -/
theorem template_meets_bracket :
    let parts : List Part := [.text "$", .text "\x7bx\x7d"]
    (Gapped.ofTemplate parts).rest = [] ∧
      lex (exprText standardUnit 0 (.template parts)) =
        some [.template true false [], .word ['x'], .template false true []] ∧
      ¬ IsTemplateFor (exprText standardUnit 0 (.template parts)) (Gapped.ofTemplate parts) := by
  intro parts
  refine ⟨rfl, by decide, fun stands => ?_⟩
  exact absurd (apart_of_isTemplateFor (by simp [parts]) stands) (by decide)

end LoadScript.Script
