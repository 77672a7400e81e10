import LoadScript.Proofs.Script.Statements
import LoadScript.Script.Brackets

/-!
The brackets of a program are nested if those in its code are, whatever stands in its literals and comments.
-/

namespace LoadScript.Script

variable {due later last : List Char} {text first second : List Char} {tokens others : List Token}

/-! Brackets in texts. -/

theorem dueBehind?_append (first second : List Char) : ∀ due,
    dueBehind? due (first ++ second) = (dueBehind? due first).bind (dueBehind? · second) := by
  induction first with
  | nil => intro due; rfl
  | cons character rest ih =>
      intro due
      rw [List.cons_append, dueBehind?, dueBehind?]
      split
      · exact ih _
      · split
        · split
          · exact ih _
          · rfl
        · exact ih _

/-- Brackets that close within a text leave those that are due behind them alone. -/
theorem dueBehind?_below (outer : List Char) {text : List Char} : ∀ {due later},
    dueBehind? due text = some later → dueBehind? (due ++ outer) text = some (later ++ outer) := by
  induction text with
  | nil =>
      intro due later nested
      cases nested
      rfl
  | cons character rest ih =>
      intro due later nested
      rw [dueBehind?] at nested ⊢
      split
      · next closing opens =>
          simp only [opens] at nested
          exact ih nested
      · next opensNone =>
          simp only [opensNone] at nested
          split
          · next closes =>
              rw [if_pos closes] at nested
              split at nested
              -- The bracket that is due is one of the inner ones, so the outer ones are not looked at.
              · next expected =>
                  obtain ⟨inner, rfl⟩ := List.head?_eq_some_iff.mp expected
                  rw [List.cons_append, List.head?_cons, if_pos rfl]
                  exact ih nested
              · cases nested
          · next opensNone closesNone =>
              rw [if_neg closesNone] at nested
              exact ih nested

theorem dueBehind?_filter (text : List Char) : ∀ due,
    dueBehind? due (text.filter isBracket) = dueBehind? due text := by
  induction text with
  | nil => intro due; rfl
  | cons character rest ih =>
      intro due
      rw [List.filter_cons]
      split
      · rw [dueBehind?, dueBehind?]
        simp only [ih]
      · next other =>
          simp only [isBracket, Bool.or_eq_true, not_or, Bool.not_eq_true, Option.isSome_eq_false_iff,
            Option.isNone_iff_eq_none] at other
          rw [ih, dueBehind?]
          simp only [other, Bool.false_eq_true, if_false]

theorem isNested_filter : IsNested (text.filter isBracket) ↔ IsNested text := by
  rw [IsNested, IsNested, dueBehind?_filter]

theorem IsNested.passes (nested : IsNested text) (due : List Char) : dueBehind? due text = some due :=
  dueBehind?_below due nested

theorem IsNested.append (firstNested : IsNested first) (secondNested : IsNested second) :
    IsNested (first ++ second) := by
  rw [IsNested, dueBehind?_append, firstNested.passes]
  exact secondNested

theorem isNested_of_noBracket (noBracket : ∀ character ∈ text, isBracket character = false) :
    IsNested text := by
  have nothing : text.filter isBracket = [] := by simpa [List.filter_eq_nil_iff] using noBracket
  rw [← isNested_filter, nothing]
  rfl

/-! Brackets among tokens. -/

theorem brackets_append (tokens others : List Token) :
    brackets (tokens ++ others) = brackets tokens ++ brackets others :=
  List.flatMap_append

def Leads (due : List Char) (tokens : List Token) (later : List Char) : Prop :=
  ∀ outer, dueBehind? (due ++ outer) (brackets tokens) = some (later ++ outer)

theorem Leads.append (leads : Leads due tokens later) (follows : Leads later others last) :
    Leads due (tokens ++ others) last := by
  intro outer
  rw [brackets_append, dueBehind?_append, leads outer]
  exact follows outer

theorem leads_of_isNested (nested : IsNested (brackets tokens)) (due : List Char) :
    Leads due tokens due :=
  fun outer => nested.passes (due ++ outer)

theorem Leads.isNested (leads : Leads [] tokens []) : IsNested (brackets tokens) := leads []

theorem Leads.enclose {opening closing : List Token} (opens : Leads [] opening due)
    (nested : IsNested (brackets tokens)) (closes : Leads due closing []) :
    IsNested (brackets (opening ++ tokens ++ closing)) :=
  ((opens.append (leads_of_isNested nested due)).append closes).isNested

theorem IsNested.append_brackets (nested : IsNested (brackets tokens))
    (othersNested : IsNested (brackets others)) : IsNested (brackets (tokens ++ others)) := by
  rw [brackets_append]
  exact nested.append othersNested

/-! Code that stands in the script as it is. -/

theorem mem_of_isBracket {character : Char} (bracket : isBracket character = true) :
    character ∈ "()[]\x7b\x7d".toList := by
  rw [isBracket, Bool.or_eq_true] at bracket
  rcases bracket with opens | closes
  · unfold closing? at opens
    split at opens
    · decide
    · decide
    · decide
    · cases opens
  · have all : ∀ other ∈ ")]\x7d".toList, other ∈ "()[]\x7b\x7d".toList := by decide
    exact all character (by simpa [isClosing] using closes)

theorem noBracket_of_kind (kind : Char → Bool) (marks : ∀ mark ∈ "()[]\x7b\x7d".toList, kind mark = false)
    {character : Char} (isKind : kind character = true) : isBracket character = false := by
  rw [Bool.eq_false_iff]
  intro bracket
  rw [marks character (mem_of_isBracket bracket)] at isKind
  cases isKind

theorem isBoundary_of_isBracket {character : Char} (bracket : isBracket character = true) :
    isBoundary character = true := by
  have all : ∀ mark ∈ "()[]\x7b\x7d".toList, isBoundary mark = true := by decide
  exact all character (mem_of_isBracket bracket)

theorem brackets_punctuatorTokens (text : List Char) :
    brackets (punctuatorTokens text) = text.filter isBracket := by
  rw [punctuatorTokens]
  split
  · next empty => rw [List.isEmpty_iff.mp empty]; rfl
  · split
    · next points => rw [points]; rfl
    · simp [brackets, Token.brackets]

theorem brackets_extend? {mode longer : Mode} {character : Char}
    (extended : mode.extend? character = some (tokens, longer)) :
    brackets (tokens ++ longer.pending) = brackets mode.pending ++ [character].filter isBracket := by
  have other : isBracket character = false := by
    rw [Bool.eq_false_iff]
    intro bracket
    rw [extend?_boundary (isBoundary_of_isBracket bracket)] at extended
    cases extended
  have nothing : [character].filter isBracket = [] := by simp [other]
  rw [nothing, List.append_nil]
  cases mode with
  | word text | numeral text =>
      simp only [Mode.extend?, Option.ite_none_right_eq_some, Option.some.injEq, Prod.mk.injEq] at extended
      obtain ⟨_, rfl, rfl⟩ := extended
      rfl
  | punctuator text =>
      simp only [Mode.extend?] at extended
      split at extended
      · cases extended
        simp only [List.nil_append, Mode.pending, brackets_punctuatorTokens, List.filter_append, nothing,
          List.append_nil]
      · split at extended
        · next pointed =>
            cases extended
            simp only [Bool.and_eq_true, decide_eq_true_eq] at pointed
            obtain ⟨start, rfl⟩ := List.getLast?_eq_some_iff.mp pointed.1.2
            have point : isBracket '.' = false := by decide
            simp [Mode.pending, brackets_append, brackets_punctuatorTokens, point]
            rfl
        · cases extended
  | between | slash | lineComment | blockComment | string | stringEscape | template | templateEscape
  | templateDollar => cases extended

theorem brackets_start (character : Char) :
    brackets ((start [] character).1 ++ (start [] character).2.mode.pending) =
      [character].filter isBracket := by
  by_cases bracket : isBracket character = true
  · have all : ∀ mark ∈ "()[]\x7b\x7d".toList,
        brackets ((start [] mark).1 ++ (start [] mark).2.mode.pending) = [mark].filter isBracket := by
      decide
    exact all character (mem_of_isBracket bracket)
  · have nothing : [character].filter isBracket = [] := by simp [bracket]
    have lone : brackets [.punctuator [character]] = [] := by simpa [brackets, Token.brackets] using nothing
    rw [nothing]
    -- With no open insertion, no curly bracket belongs to a template.
    fun_cases start [] character with
    | case5 | case6 | case8 | case9 => exact lone
    | case12 => rw [List.nil_append, Mode.pending, brackets_punctuatorTokens, nothing]
    | case1 | case2 | case3 | case4 | case7 | case10 | case11 | case13 => rfl

theorem brackets_codeStep (mode : Mode) (character : Char) :
    brackets ((codeStep mode [] character).1 ++ (codeStep mode [] character).2.mode.pending) =
      brackets mode.pending ++ [character].filter isBracket := by
  unfold codeStep
  split
  · next extended => exact brackets_extend? extended
  · rw [List.append_assoc, brackets_append, brackets_start]

theorem brackets_lexFrom (text : List Char) : ∀ {mode : Mode} {tokens : List Token}, mode.isCode = true →
    (∀ character ∈ text, isPlain character = true) → lexFrom ⟨mode, []⟩ text = some tokens →
    brackets tokens = brackets mode.pending ++ text.filter isBracket := by
  induction text with
  | nil =>
      intro mode tokens code _ read
      rw [lexFrom, finish_code code] at read
      cases read
      simp
  | cons character rest ih =>
      intro mode tokens code plain read
      rw [List.forall_mem_cons] at plain
      obtain ⟨emitted, next, nextCode, stepped⟩ := codeStep_plain mode plain.1
      have here := stepped [] (.inl rfl)
      have step : step ⟨mode, []⟩ character = some (emitted, ⟨next, []⟩) := by
        rw [step_code code, here]
      rw [lexFrom_cons step] at read
      obtain ⟨later, readLater, rfl⟩ := Option.map_eq_some_iff.mp read
      have passed := brackets_codeStep mode character
      rw [here, brackets_append] at passed
      rw [brackets_append, ih nextCode plain.2 readLater, ← List.append_assoc, passed, List.append_assoc,
        ← List.filter_append]
      rfl

theorem brackets_codeTokens {code : String} {inserted : Bool} (verbatim : IsVerbatim inserted code) :
    brackets (codeTokens code) = code.toList.filter isBracket := by
  have plain : ∀ character ∈ code.toList, isPlain character = true :=
    fun character member => (verbatim character member).1
  obtain ⟨tokens, alone, _⟩ := lexFrom_plain code.toList .between rfl plain
  have read : codeTokens code = tokens := by
    rw [codeTokens, lex, alone]
    rfl
  rw [read, brackets_lexFrom code.toList rfl plain alone]
  rfl

theorem isNested_codeTokens {code : String} {inserted : Bool} (verbatim : IsVerbatim inserted code)
    (nested : IsNested code.toList) : IsNested (brackets (codeTokens code)) := by
  rwa [brackets_codeTokens verbatim, isNested_filter]

theorem isNested_number (value : Number) : IsNested (brackets (codeTokens (numberText value))) :=
  isNested_codeTokens (isVerbatim_numberText value false) (isNested_of_noBracket fun character member =>
    noBracket_of_kind (fun other => Double.isNumeric other || other.isAlpha) (by decide)
      (characters_numberText value character member))

theorem isNested_key (quotesKeys : Bool) (key : String) :
    IsNested (brackets (keyTokens quotesKeys key)) := by
  rw [keyTokens]
  split
  · next bare =>
      simp only [Bool.and_eq_true] at bare
      exact isNested_codeTokens (isVerbatim_of_isBareKey bare.2 false)
        (isNested_of_noBracket fun character member =>
          noBracket_of_kind (fun other => isIdentifierPart other || other = '\n') (by decide)
            (characters_of_isBareKey bare.2 character member))
  · rfl

/-! Syntax trees. -/

theorem areNested_append {first second : List String} :
    AreNested (first ++ second) ↔ AreNested first ∧ AreNested second :=
  List.forall_mem_append

theorem areNested_cons {code : String} {rest : List String} :
    AreNested (code :: rest) ↔ IsNested code.toList ∧ AreNested rest :=
  List.forall_mem_cons

theorem isNested_listed (inline : Bool) {parts : List (List Token)}
    (nested : ∀ part ∈ parts, IsNested (brackets part)) : IsNested (brackets (listed inline parts)) := by
  induction parts with
  | nil => rfl
  | cons part rest ih =>
      rw [List.forall_mem_cons] at nested
      have comma : IsNested (brackets [sign ","]) := rfl
      cases rest with
      | nil =>
          rw [listed]
          split
          · exact nested.1
          · exact nested.1.append_brackets comma
      | cons next others =>
          rw [listed.eq_3 inline part (next :: others) (by simp)]
          exact (nested.1.append_brackets comma).append_brackets (ih nested.2)

theorem isNested_names {names : List String} {inserted : Bool}
    (verbatim : ∀ name ∈ names, IsVerbatim inserted name) (nested : AreNested names) :
    IsNested (brackets (listed true (names.map codeTokens))) := by
  apply isNested_listed
  intro part member
  obtain ⟨name, isName, rfl⟩ := List.mem_map.mp member
  exact isNested_codeTokens (verbatim name isName) (nested name isName)

mutual

theorem isNested_expr (inserted : Bool) (expr : Expr) (safe : expr.IsSafe inserted)
    (nested : AreNested expr.codes) : IsNested (brackets expr.tokens) := by
  cases expr with
  | raw code | reference name =>
      rw [Expr.tokens]
      exact isNested_codeTokens safe (areNested_cons.mp nested).1
  | string value => rfl
  | number value =>
      rw [Expr.tokens]
      exact isNested_number value
  | template parts =>
      rw [Expr.tokens]
      exact (leads_parts true [] parts safe nested).isNested
  | object entries quotesKeys inline =>
      have opening : Leads [] [sign "\x7b"] ['\x7d'] := fun _ => rfl
      have inner := isNested_listed inline (isNested_entries inserted quotesKeys entries safe nested)
      rw [Expr.tokens]
      exact opening.enclose inner fun _ => rfl
  | array items inline =>
      have opening : Leads [] [sign "["] [']'] := fun _ => rfl
      have inner := isNested_listed inline (isNested_exprs inserted items safe nested)
      rw [Expr.tokens]
      exact opening.enclose inner fun _ => rfl
  | call callee arguments =>
      obtain ⟨calleeNested, argumentsNested⟩ := areNested_cons.mp nested
      have inner := isNested_listed true (isNested_exprs inserted arguments safe.2 argumentsNested)
      have parenthesis : Leads [] [sign "("] [')'] := fun _ => rfl
      have opening := (leads_of_isNested (isNested_codeTokens safe.1 calleeNested) []).append parenthesis
      rw [Expr.tokens]
      exact opening.enclose inner fun _ => rfl
  | arrow parameters body =>
      obtain ⟨parametersNested, bodyNested⟩ := areNested_append.mp nested
      have opening : Leads [] [sign "("] [')'] := fun _ => rfl
      have head : IsNested (brackets ([sign "("] ++ listed true (parameters.map codeTokens) ++
          [sign ")", sign "=>"])) := opening.enclose (isNested_names safe.1 parametersNested) fun _ => rfl
      rw [Expr.tokens]
      exact head.append_brackets (isNested_expr inserted body safe.2 bodyNested)
  | binary operator left right =>
      obtain ⟨leftNested, operatorRightNested⟩ := areNested_append.mp nested
      obtain ⟨operatorNested, rightNested⟩ := areNested_cons.mp operatorRightNested
      obtain ⟨leftSafe, verbatim, rightSafe⟩ := safe
      rw [Expr.tokens]
      exact ((isNested_expr inserted left leftSafe leftNested).append_brackets
        (isNested_codeTokens verbatim operatorNested)).append_brackets
          (isNested_expr inserted right rightSafe rightNested)

/-- Behind an insertion, the pieces of a template begin with the end of the insertion. -/
theorem leads_parts (opens : Bool) (content : List Char) (parts : List Part) (safe : PartsAreSafe parts)
    (nested : AreNested (partCodes parts)) :
    Leads (if opens then [] else ['\x7d']) (partTokens opens content parts) [] := by
  cases parts with
  | nil =>
      rw [partTokens]
      cases opens <;> exact fun _ => rfl
  | cons part others =>
      cases part with
      | text value =>
          rw [partTokens]
          exact leads_parts opens _ others safe.2 nested
      | insert value =>
          obtain ⟨valueNested, othersNested⟩ := areNested_append.mp nested
          have piece : Leads (if opens then [] else ['\x7d']) [.template opens false content] ['\x7d'] := by
            cases opens <;> exact fun _ => rfl
          have inner := leads_of_isNested (isNested_expr true value safe.1 valueNested) ['\x7d']
          rw [partTokens]
          exact (piece.append inner).append (leads_parts false [] others safe.2 othersNested)

theorem isNested_exprs (inserted : Bool) (items : List Expr) (safe : ExprsAreSafe inserted items)
    (nested : AreNested (exprCodes items)) : ∀ part ∈ exprTokens items, IsNested (brackets part) := by
  cases items with
  | nil =>
      rw [exprTokens]
      exact List.forall_mem_nil _
  | cons item others =>
      obtain ⟨itemNested, othersNested⟩ := areNested_append.mp nested
      rw [exprTokens, List.forall_mem_cons]
      exact ⟨isNested_expr inserted item safe.1 itemNested,
        isNested_exprs inserted others safe.2 othersNested⟩

theorem isNested_entries (inserted quotesKeys : Bool) (entries : List (String × Expr))
    (safe : EntriesAreSafe inserted entries) (nested : AreNested (entryCodes entries)) :
    ∀ part ∈ entryTokens quotesKeys entries, IsNested (brackets part) := by
  cases entries with
  | nil =>
      rw [entryTokens]
      exact List.forall_mem_nil _
  | cons entry others =>
      obtain ⟨key, value⟩ := entry
      obtain ⟨valueNested, othersNested⟩ := areNested_append.mp nested
      have colon : IsNested (brackets [sign ":"]) := rfl
      rw [entryTokens, List.forall_mem_cons]
      exact ⟨((isNested_key quotesKeys key).append_brackets colon).append_brackets
          (isNested_expr inserted value safe.1 valueNested),
        isNested_entries inserted quotesKeys others safe.2 othersNested⟩

end

theorem isNested_exportTokens (exported : Bool) : IsNested (brackets (exportTokens exported)) := by
  cases exported <;> rfl

theorem isNested_importOf (source : String) {parts : List (List Token)}
    (nested : ∀ part ∈ parts, IsNested (brackets part)) :
    IsNested (brackets
      ([word "import"] ++ listed true parts ++ [word "from"] ++ [stringToken source] ++ [sign ";"])) := by
  have opening : Leads [] [word "import"] [] := fun _ => rfl
  have closing : Leads [] ([word "from"] ++ [stringToken source] ++ [sign ";"]) [] := fun _ => rfl
  have read := opening.enclose (isNested_listed true nested) closing
  simpa only [List.append_assoc] using read

theorem isNested_import (source : String) {whole : Option String} {names : List String}
    (wholeVerbatim : ∀ name ∈ whole, IsVerbatim false name)
    (verbatim : ∀ name ∈ names, IsVerbatim false name) (nested : AreNested (whole.toList ++ names)) :
    IsNested (brackets (importTokens source whole names)) := by
  obtain ⟨wholeNested, namesNested⟩ := areNested_append.mp nested
  simp only [importTokens]
  apply isNested_importOf
  rw [List.forall_mem_append]
  constructor
  · cases whole with
    | none => exact List.forall_mem_nil _
    | some name =>
        have bound := isNested_codeTokens (wholeVerbatim name rfl) (wholeNested name (by simp))
        simp only
        split
        · exact List.forall_mem_nil _
        · exact List.forall_mem_singleton.mpr bound
  · have opening : Leads [] [sign "\x7b"] ['\x7d'] := fun _ => rfl
    have list : IsNested (brackets ([sign "\x7b"] ++ listed true (names.map codeTokens) ++
        [sign "\x7d"])) := opening.enclose (isNested_names verbatim namesNested) fun _ => rfl
    split
    · exact List.forall_mem_nil _
    · exact List.forall_mem_singleton.mpr list

theorem leads_functionHead {name : String} (verbatim : IsVerbatim false name) (nested : IsNested name.toList)
    (exported isDefault : Bool) : Leads [] (functionHeadTokens name exported isDefault) ['\x7d'] := by
  rw [functionHeadTokens]
  split
  · exact fun _ => rfl
  · have keyword : IsNested (brackets [word "function"]) := rfl
    have opening : Leads [] [sign "(", sign ")", sign "\x7b"] ['\x7d'] := fun _ => rfl
    have head := ((isNested_exportTokens exported).append_brackets keyword).append_brackets
      (isNested_codeTokens verbatim nested)
    exact (leads_of_isNested head []).append opening

mutual

theorem isNested_stmt (stmt : Stmt) (safe : stmt.IsSafe) (nested : AreNested stmt.codes) :
    IsNested (brackets stmt.tokens) := by
  have semicolon : IsNested (brackets [sign ";"]) := rfl
  have equals : IsNested (brackets [sign "="]) := rfl
  cases stmt with
  | comment text | blockComment lines isDocumentation | blank => rfl
  | importFrom source whole names => exact isNested_import source safe.1 safe.2 nested
  | declare exported keyword name value =>
      obtain ⟨keywordNested, rest⟩ := areNested_cons.mp nested
      obtain ⟨nameNested, valueNested⟩ := areNested_cons.mp rest
      obtain ⟨keywordVerbatim, nameVerbatim, valueSafe⟩ := safe
      have head := ((isNested_exportTokens exported).append_brackets
        (isNested_codeTokens keywordVerbatim keywordNested)).append_brackets
        (isNested_codeTokens nameVerbatim nameNested)
      rw [Stmt.tokens]
      exact ((head.append_brackets equals).append_brackets
        (isNested_expr false value valueSafe valueNested)).append_brackets semicolon
  | assign target value =>
      obtain ⟨targetNested, valueNested⟩ := areNested_cons.mp nested
      rw [Stmt.tokens]
      exact (((isNested_codeTokens safe.1 targetNested).append_brackets equals).append_brackets
        (isNested_expr false value safe.2 valueNested)).append_brackets semicolon
  | evaluate value =>
      rw [Stmt.tokens]
      exact (isNested_expr false value safe nested).append_brackets semicolon
  | ifThen condition body =>
      obtain ⟨conditionNested, bodyNested⟩ := areNested_append.mp nested
      have opening : Leads [] [word "if", sign "("] [')'] := fun _ => rfl
      have block : Leads [')'] [sign ")", sign "\x7b"] ['\x7d'] := fun _ => rfl
      have head := (opening.append (leads_of_isNested
        (isNested_expr false condition safe.1 conditionNested) _)).append block
      rw [Stmt.tokens]
      exact head.enclose (isNested_body body safe.2 bodyNested) fun _ => rfl
  | function name exported isDefault body =>
      obtain ⟨nameNested, bodyNested⟩ := areNested_cons.mp nested
      rw [Stmt.tokens]
      exact (leads_functionHead safe.1 nameNested exported isDefault).enclose
        (isNested_body body safe.2 bodyNested) fun _ => rfl
  | group label body =>
      have head : Leads [] ([word "group", sign "("] ++ [stringToken label] ++
          [sign ",", word "function", sign "(", sign ")", sign "\x7b"]) ['\x7d', ')'] := fun _ => rfl
      rw [Stmt.tokens]
      exact head.enclose (isNested_body body safe nested) fun _ => rfl
  | switch subject cases =>
      obtain ⟨subjectNested, casesNested⟩ := areNested_append.mp nested
      have opening : Leads [] [word "switch", sign "("] [')'] := fun _ => rfl
      have block : Leads [')'] [sign ")", sign "\x7b"] ['\x7d'] := fun _ => rfl
      have head := (opening.append (leads_of_isNested
        (isNested_expr false subject safe.1 subjectNested) _)).append block
      rw [Stmt.tokens]
      exact head.enclose (isNested_cases cases safe.2 casesNested) fun _ => rfl

theorem isNested_body (body : List Stmt) (safe : BodyIsSafe body) (nested : AreNested (bodyCodes body)) :
    IsNested (brackets (bodyTokens body)) := by
  cases body with
  | nil =>
      rw [bodyTokens]
      rfl
  | cons stmt rest =>
      obtain ⟨stmtNested, restNested⟩ := areNested_append.mp nested
      rw [bodyTokens]
      exact (isNested_stmt stmt safe.1 stmtNested).append_brackets (isNested_body rest safe.2 restNested)

theorem isNested_cases (cases : List Case) (safe : CasesAreSafe cases)
    (nested : AreNested (caseCodes cases)) : IsNested (brackets (caseTokens cases)) := by
  cases cases with
  | nil =>
      rw [caseTokens]
      rfl
  | cons first rest =>
      obtain ⟨value, body⟩ := first
      obtain ⟨headNested, restNested⟩ := areNested_append.mp nested
      obtain ⟨valueNested, bodyNested⟩ := areNested_append.mp headNested
      obtain ⟨valueSafe, bodySafe, restSafe⟩ := safe
      have keyword : IsNested (brackets [word "case"]) := rfl
      have colon : IsNested (brackets [sign ":"]) := rfl
      have leave : IsNested (brackets [word "break", sign ";"]) := rfl
      have head := (keyword.append_brackets (isNested_expr false value valueSafe valueNested)).append_brackets
        colon
      rw [caseTokens]
      exact ((head.append_brackets (isNested_body body bodySafe bodyNested)).append_brackets
        leave).append_brackets (isNested_cases rest restSafe restNested)

end

/-! The end of a script. -/

theorem lexFrom_eq_advance (text : List Char) : ∀ state,
    lexFrom state text = (advance state text).bind fun read => (finish read.2).map (read.1 ++ ·) := by
  induction text with
  | nil =>
      intro state
      simp [lexFrom, advance]
  | cons character rest ih =>
      intro state
      rw [lexFrom, advance]
      cases step state character with
      | none => rfl
      | some stepped =>
          simp only [Option.bind_eq_bind, Option.bind_some, ih]
          cases advance stepped.2 rest with
          | none => rfl
          | some read =>
              simp only [Option.bind_some, Option.pure_def]
              cases finish read.2 <;> simp

theorem advance_append (first second : List Char) : ∀ state,
    advance state (first ++ second) = (advance state first).bind fun read =>
      (advance read.2 second).map fun others => (read.1 ++ others.1, others.2) := by
  induction first with
  | nil =>
      intro state
      simp [advance]
  | cons character rest ih =>
      intro state
      rw [List.cons_append, advance, advance]
      cases step state character with
      | none => rfl
      | some stepped =>
          simp only [Option.bind_eq_bind, Option.bind_some, ih]
          cases advance stepped.2 rest with
          | none => rfl
          | some read =>
              simp only [Option.bind_some, Option.pure_def]
              cases advance read.2 second <;> simp

theorem insertions_of_finish {state : State} (ends : (finish state).isSome = true) :
    state.insertions = [] := by
  rw [finish] at ends
  split at ends
  · next closed => exact List.isEmpty_iff.mp closed
  · cases ends

/-- A text that may end behind a line end does not end inside a token or a comment. -/
theorem next_of_lineFeed {state next : State} (stepped : step state '\n' = some (tokens, next))
    (ends : (finish next).isSome = true) : next = ⟨.between, []⟩ := by
  have outside : next = ⟨.between, state.insertions⟩ := by
    obtain ⟨mode, insertions⟩ := state
    cases mode with
    | between | word text | numeral text | punctuator text =>
        rw [step_code rfl, codeStep, extend?_boundary (by decide)] at stepped
        cases stepped
        rfl
    | lineComment =>
        cases stepped
        rfl
    | slash | string mark content | stringEscape mark content => cases stepped
    | blockComment | template opens content | templateEscape opens content | templateDollar opens content =>
        cases stepped
        simp [finish] at ends
  have top := insertions_of_finish ends
  rw [outside] at top ⊢
  rw [top]

/-- A text that ends with a line and is read to its end ends outside of literals and comments. -/
theorem advance_of_lex {start : String} (read : lex (start ++ "\n") = some tokens) :
    advance ⟨.between, []⟩ (start ++ "\n").toList = some (tokens, ⟨.between, []⟩) := by
  rw [lex, lexFrom_eq_advance] at read
  obtain ⟨⟨emitted, last⟩, advanced, finished⟩ := Option.bind_eq_some_iff.mp read
  obtain ⟨pending, ends, rfl⟩ := Option.map_eq_some_iff.mp finished
  have final : last = ⟨.between, []⟩ := by
    rw [String.toList_append, advance_append] at advanced
    obtain ⟨⟨before, state⟩, _, fed⟩ := Option.bind_eq_some_iff.mp advanced
    obtain ⟨⟨others, next⟩, feed, same⟩ := Option.map_eq_some_iff.mp fed
    obtain ⟨⟨stepTokens, behind⟩, stepped, rest⟩ := Option.bind_eq_some_iff.mp feed
    cases rest
    cases same
    exact next_of_lineFeed stepped (by rw [ends]; rfl)
  subst final
  cases ends
  rw [advanced]
  simp [Mode.pending]

/-- A program of safe statements is read to its end, and the brackets among its tokens are nested if those in
its code are. -/
theorem isNested_render {unit : String} (indent : IsIndent unit) (level : Int) {program : List Stmt}
    (safe : BodyIsSafe program) (nested : AreNested (bodyCodes program)) :
    ∃ tokens, advance ⟨.between, []⟩ (render unit level program).toList = some (tokens, ⟨.between, []⟩) ∧
      IsNested (brackets tokens) := by
  refine ⟨bodyTokens program, ?_, isNested_body program safe nested⟩
  have read := lex_render indent level program safe
  rw [render] at read ⊢
  split at read
  · have nothing : [] = bodyTokens program := Option.some.inj read
    rw [← nothing]
    rfl
  · exact advance_of_lex read

end LoadScript.Script
