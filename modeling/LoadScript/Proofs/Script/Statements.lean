import LoadScript.Proofs.Script.Comments

/-!
The text of a program is read as the tokens of its statements.
-/

namespace LoadScript.Script

theorem isIndent_standardUnit : IsIndent standardUnit := by
  unfold IsIndent
  decide

theorem reads_exportText (exported : Bool) :
    Reads [] (exportText exported) (exportTokens exported) [] := by
  cases exported <;> exact reads_of_advance rfl

theorem reads_openBrace : Reads [] openBrace [sign "\x7b"] [] := reads_open

theorem reads_closeBrace : Reads [] closeBrace [sign "\x7d"] [] :=
  (reads_close : Reads (openBracket []) closeBrace [sign "\x7d"] [])

theorem reads_importOf {parts : List String} {tokens : List (List Token)} (source : String)
    (spelled : List.Forall₂ (Spells []) parts tokens) :
    Reads [] ("import " ++ String.intercalate ", " parts ++ " from " ++ quote source ++ ";")
      ([word "import"] ++ listed true tokens ++ [word "from"] ++ [stringToken source] ++ [sign ";"])
      [] := by
  have opening : Reads [] "import " [word "import"] [] := reads_of_advance rfl
  have closing : Reads [] " from " [word "from"] [] := reads_of_advance rfl
  have semicolon : Reads [] ";" [sign ";"] [] := reads_of_advance rfl
  exact ((opening.enclose (spells_intercalate spelled) closing (by decide)).append
    (reads_quote source)).append semicolon

theorem reads_nameList {names : List String} (verbatim : ∀ name ∈ names, IsVerbatim false name) :
    Reads [] (openBrace ++ " " ++ String.intercalate ", " names ++ " " ++ closeBrace)
      ([sign "\x7b"] ++ listed true (names.map codeTokens) ++ [sign "\x7d"]) [] := by
  have gap : Reads [] " " [] [] := reads_of_advance rfl
  have read := ((reads_openBrace.append gap).enclose (spells_intercalate
    (spells_names verbatim (.inl rfl))) gap (by decide)).append reads_closeBrace
  simpa only [List.append_nil] using read

theorem reads_import (source : String) {whole : Option String} {names : List String}
    (wholeVerbatim : ∀ name ∈ whole, IsVerbatim false name)
    (verbatim : ∀ name ∈ names, IsVerbatim false name) :
    Reads [] (importText source whole names) (importTokens source whole names) [] := by
  simp only [importText, importTokens]
  refine reads_importOf source (List.rel_append ?_ ?_)
  · cases whole with
    | none => exact .nil
    | some name =>
        simp only
        split
        · exact .nil
        · exact .cons (spells_verbatim (wholeVerbatim name rfl) (.inl rfl)) .nil
  · split
    · exact .nil
    · exact .cons (reads_nameList verbatim).spells .nil

theorem reads_functionHead {name : String} (verbatim : IsVerbatim false name)
    (exported isDefault : Bool) :
    Reads [] (functionHead name exported isDefault) (functionHeadTokens name exported isDefault) [] := by
  rw [functionHead, functionHeadTokens]
  split
  · exact reads_of_advance rfl
  · have keyword : Reads [] "function " [word "function"] [] := reads_of_advance rfl
    have brackets : Reads [] "() " [sign "(", sign ")"] [] := reads_of_advance rfl
    have read := ((((reads_exportText exported).append keyword).append_spells
      (spells_verbatim verbatim (.inl rfl))).append_reads brackets (by decide)).append reads_openBrace
    simpa using read

theorem bodyTokens_blanks {body : List Stmt} (blanks : body.all Stmt.isBlank = true) :
    bodyTokens body = [] := by
  induction body with
  | nil => rfl
  | cons stmt rest ih =>
      rw [List.all_cons, Bool.and_eq_true] at blanks
      cases stmt with
      | blank => simp [bodyTokens, Stmt.tokens, ih blanks.2]
      | _ => cases blanks.1

variable {unit : String}

theorem reads_block (indent : IsIndent unit) (level : Int) {head last : String} {lines : List String}
    {headTokens bodyTokens lastTokens : List Token} (headRead : Reads [] head headTokens [])
    (bodyRead : Reads [] (endedLines lines) bodyTokens []) (lastRead : Reads [] last lastTokens []) :
    Reads [] (endedLines ((padding unit level ++ head) :: lines ++ [padding unit level ++ last]))
      (headTokens ++ bodyTokens ++ lastTokens) [] := by
  have pad : Reads [] (padding unit level) [] [] := reads_padding indent level
  have feed : Reads [] "\n" [] [] := reads_of_advance rfl
  have read := (((pad.append headRead).append feed).append bodyRead).append
    ((pad.append lastRead).append feed)
  rw [List.cons_append, endedLines_cons, endedLines_append]
  simpa [String.append_assoc] using read

mutual

theorem reads_stmt (indent : IsIndent unit) (level : Int) (stmt : Stmt) (safe : stmt.IsSafe) :
    Reads [] (endedLines (stmtLines unit level stmt)) stmt.tokens [] := by
  have pad : Reads [] (padding unit level) [] [] := reads_padding indent level
  have feed : Reads [] "\n" [] [] := reads_of_advance rfl
  have semicolon : Reads [] ";" [sign ";"] [] := reads_of_advance rfl
  have equals : Reads [] " = " [sign "="] [] := reads_of_advance rfl
  cases stmt with
  | comment text =>
      rw [stmtLines, Stmt.tokens]
      exact reads_commentLines (isIndent_padding indent level) text
  | blockComment lines isDocumentation =>
      rw [stmtLines, Stmt.tokens]
      exact reads_blockComment (isIndent_padding indent level) isDocumentation lines
  | blank =>
      rw [stmtLines, Stmt.tokens]
      exact reads_of_advance rfl
  | importFrom source whole names =>
      have read := (pad.append (reads_import source safe.1 safe.2)).append feed
      rw [stmtLines, Stmt.tokens]
      simpa using read
  | declare exported keyword name value =>
      obtain ⟨keywordVerbatim, nameVerbatim, valueSafe⟩ := safe
      have gap : Reads [] " " [] [] := reads_of_advance rfl
      have read := (((((((pad.append (reads_exportText exported)).append_spells
        (spells_verbatim keywordVerbatim (.inl rfl))).append_reads gap (by decide)).append_spells
        (spells_verbatim nameVerbatim (.inl rfl))).append_reads equals (by decide)).append_spells
        (spells_expr indent level [] false value valueSafe (.inl rfl))).append_reads semicolon
        (by decide)).append feed
      rw [stmtLines, Stmt.tokens]
      simpa using read
  | assign target value =>
      have read := (((pad.append_spells (spells_verbatim safe.1 (.inl rfl))).append_reads equals
        (by decide)).enclose (spells_expr indent level [] false value safe.2 (.inl rfl)) semicolon
        (by decide)).append feed
      rw [stmtLines, Stmt.tokens]
      simpa using read
  | evaluate value =>
      have read := (pad.enclose (spells_expr indent level [] false value safe (.inl rfl)) semicolon
        (by decide)).append feed
      rw [stmtLines, Stmt.tokens]
      simpa using read
  | ifThen condition body =>
      have opening : Reads [] "if (" [word "if", sign "("] [] := reads_of_advance rfl
      have closing : Reads [] ") " [sign ")"] [] := reads_of_advance rfl
      have head := (opening.enclose (spells_expr indent level [] false condition safe.1 (.inl rfl))
        closing (by decide)).append reads_openBrace
      have read := reads_block indent level head (reads_body indent (level + 1) body safe.2)
        reads_closeBrace
      rw [stmtLines, Stmt.tokens]
      simpa [String.append_assoc] using read
  | function name exported isDefault body =>
      rw [stmtLines, Stmt.tokens]
      exact reads_block indent level (reads_functionHead safe.1 exported isDefault)
        (reads_body indent (level + 1) body safe.2) reads_closeBrace
  | group label body =>
      have opening : Reads [] "group(" [word "group", sign "("] [] := reads_of_advance rfl
      have function : Reads [] ", function() " [sign ",", word "function", sign "(", sign ")"] [] :=
        reads_of_advance rfl
      have closing : Reads [] ");" [sign ")", sign ";"] [] := reads_of_advance rfl
      have head := ((opening.append (reads_quote label)).append function).append reads_openBrace
      have read := reads_block indent level head (reads_body indent (level + 1) body safe)
        (reads_closeBrace.append closing)
      rw [stmtLines, Stmt.tokens]
      simpa [String.append_assoc] using read
  | switch subject cases =>
      have opening : Reads [] "switch (" [word "switch", sign "("] [] := reads_of_advance rfl
      have closing : Reads [] ") " [sign ")"] [] := reads_of_advance rfl
      have head := (opening.enclose (spells_expr indent level [] false subject safe.1 (.inl rfl))
        closing (by decide)).append reads_openBrace
      have read := reads_block indent level head (reads_cases indent (level + 1) cases safe.2)
        reads_closeBrace
      rw [stmtLines, Stmt.tokens]
      simpa [String.append_assoc] using read

theorem reads_body (indent : IsIndent unit) (level : Int) (body : List Stmt) (safe : BodyIsSafe body) :
    Reads [] (endedLines (bodyLines unit level body)) (bodyTokens body) [] := by
  cases body with
  | nil =>
      rw [bodyLines, bodyTokens]
      exact reads_of_advance rfl
  | cons stmt rest =>
      rw [bodyLines]
      split
      · next blanks =>
          have noTokens : bodyTokens (stmt :: rest) = [] := bodyTokens_blanks (by simpa using blanks)
          rw [noTokens]
          exact reads_of_advance rfl
      · rw [endedLines_append, bodyTokens]
        exact (reads_stmt indent level stmt safe.1).append (reads_body indent level rest safe.2)

theorem reads_cases (indent : IsIndent unit) (level : Int) (cases : List Case)
    (safe : CasesAreSafe cases) :
    Reads [] (endedLines (caseLines unit level cases)) (caseTokens cases) [] := by
  cases cases with
  | nil =>
      rw [caseLines, caseTokens]
      exact reads_of_advance rfl
  | cons first rest =>
      obtain ⟨value, body⟩ := first
      obtain ⟨valueSafe, bodySafe, restSafe⟩ := safe
      have keyword : Reads [] "case " [word "case"] [] := reads_of_advance rfl
      have colon : Reads [] ":" [sign ":"] [] := reads_of_advance rfl
      have leave : Reads [] "break;" [word "break", sign ";"] [] := reads_of_advance rfl
      have head := keyword.enclose (spells_expr indent level [] false value valueSafe (.inl rfl)) colon
        (by decide)
      have read := (reads_block indent level head (reads_body indent (level + 1) body bodySafe)
        ((reads_spaces indent).append leave)).append (reads_cases indent level rest restSafe)
      rw [caseLines, caseTokens, endedLines_append]
      simpa [String.append_assoc] using read

end

theorem intercalate_feeds (rest : List String) : ∀ line,
    String.intercalate "\n" (line :: rest) ++ "\n" = endedLines (line :: rest) := by
  induction rest with
  | nil => intro line; simp
  | cons next rest ih =>
      intro line
      rw [endedLines_cons, ← ih next, String.intercalate_cons_cons]
      simp only [String.append_assoc]

/-- A program of safe statements is read as its tokens, whatever stands in its literals and comments. -/
theorem lex_render (indent : IsIndent unit) (level : Int) (program : List Stmt)
    (safe : BodyIsSafe program) : lex (render unit level program) = some (bodyTokens program) := by
  have read := reads_body indent level program safe
  rw [render]
  cases lines : bodyLines unit level program with
  | nil =>
      rw [lines] at read
      exact read.lex_eq
  | cons line rest =>
      rw [lines, ← intercalate_feeds] at read
      exact read.lex_eq

/-- Layout never touches content. At any two levels and with any two units of indentation, a program is read as
the same tokens, and these have the same text in every literal. -/
theorem lex_render_reindented {firstUnit secondUnit : String} (firstIndent : IsIndent firstUnit)
    (secondIndent : IsIndent secondUnit) (firstLevel secondLevel : Int) {program : List Stmt}
    (safe : BodyIsSafe program) :
    lex (render firstUnit firstLevel program) = some (bodyTokens program) ∧
      lex (render secondUnit secondLevel program) = some (bodyTokens program) :=
  ⟨lex_render firstIndent firstLevel program safe, lex_render secondIndent secondLevel program safe⟩

def nestedProgram : List Stmt := [
  .blockComment ["first", "second */ third"] true,
  .function "send" true false [
    .constant "body" (.template [
      .text "a\n    b", .insert (.object [("k", .template [.text "\t\n // c"])] false false), .text " \n"]),
    .ifThen (.raw "ok && (count > 1)") [
      .evaluate (.call "post" [
        .array [.string "it's\n", .number (.whole 1)] false,
        .object [("Key", .arrow ["r"] (.raw "r.ok"))] true false])],
    .blank]]

theorem nestedProgram_isSafe : BodyIsSafe nestedProgram := by
  have template : PartsAreSafe [
      .text "a\n    b", .insert (.object [("k", .template [.text "\t\n // c"])] false false),
      .text " \n"] := by
    simp [PartsAreSafe, Expr.IsSafe, EntriesAreSafe]
  have verbatim : ∀ code ∈ ["send", "const", "body", "ok && (count > 1)", "post", "r", "r.ok"],
      IsVerbatim false code := by decide
  simp only [List.forall_mem_cons] at verbatim
  obtain ⟨send, keyword, body, condition, post, parameter, result, _⟩ := verbatim
  simp [nestedProgram, BodyIsSafe, Stmt.IsSafe, Stmt.constant, Expr.IsSafe, ExprsAreSafe, EntriesAreSafe,
    template, send, keyword, body, condition, post, parameter, result]

theorem lex_render_nestedProgram :
    IsIndent "  " ∧ IsIndent "\t" ∧ BodyIsSafe nestedProgram ∧
      lex (render "  " 0 nestedProgram) = some (bodyTokens nestedProgram) ∧
      lex (render "\t" 3 nestedProgram) = some (bodyTokens nestedProgram) := by
  have blanks : IsIndent "  " ∧ IsIndent "\t" := by
    unfold IsIndent
    decide
  exact ⟨blanks.1, blanks.2, nestedProgram_isSafe,
    lex_render_reindented blanks.1 blanks.2 0 3 nestedProgram_isSafe⟩

end LoadScript.Script
