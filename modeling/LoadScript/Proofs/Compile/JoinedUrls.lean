import LoadScript.Proofs.Compile.BaseUrl
import LoadScript.Proofs.Script.Evaluation

/-!
The values of URLs that are joined to the base URL. A base URL of the plan is declared without slashes at its
end, but the value of a variable of its name and the value of a placeholder at its end are not looked into.
-/

namespace LoadScript.Compile.Job

open Script Text

/-! What the constant of the base URL is declared to be. -/

def trimmedBaseUrl (job : Job) : List Char := dropEndWhile (· = '/') job.plan.baseUrl.toList

theorem exists_of_declared_environment {job : Job} {declaration : Expr}
    (declared : declaration ∈ declaredValues baseUrlName job.environment) :
    ∃ entry ∈ job.profileVariables, entry.key = baseUrlName ∧
      declaration = .binary "||" (.reference ("__ENV." ++ baseUrlName)) (.string entry.value) := by
  obtain ⟨stmt, member, value⟩ := List.mem_filterMap.mp declared
  have isVariable : stmt ∈ job.profileVariables.map variableStmt := by
    rw [environment] at member
    split at member
    · cases member
    · rcases List.mem_append.mp member with first | blank
      · rcases List.mem_append.mp first with comments | isVariable
        · simp only [List.mem_cons, List.not_mem_nil, or_false] at comments
          rcases comments with rfl | rfl | rfl <;> cases value
        · exact isVariable
      · rw [List.mem_singleton.mp blank] at value
        cases value
  obtain ⟨entry, listed, rfl⟩ := List.mem_map.mp isVariable
  simp only [variableStmt, Stmt.constant, Option.ite_none_right_eq_some, Option.some.injEq] at value
  obtain ⟨named, rfl⟩ := value
  exact ⟨entry, listed, named, by rw [named]⟩

theorem eq_resolve_of_declared_baseUrl {job : Job} {declaration : Expr}
    (declared : declaration ∈ declaredValues baseUrlName job.baseUrl.value) :
    declaration = resolve (String.ofList job.trimmedBaseUrl) := by
  rw [baseUrl] at declared
  split at declared
  · cases declared
  · split at declared
    · cases declared
    · exact List.mem_singleton.mp declared

theorem declares_resolve {job : Job} (declares : job.declaresBaseUrl = true) :
    resolve (String.ofList job.trimmedBaseUrl) ∈ declaredValues baseUrlName job.program.value := by
  obtain ⟨value, declaration⟩ := baseUrl_of_declares declares
  have declared : value ∈ declaredValues baseUrlName job.baseUrl.value := by
    rw [declaration]
    exact List.mem_singleton_self value
  rw [← eq_resolve_of_declared_baseUrl declared, program_value]
  simp [declared]

theorem declaredValues_functions (job : Job) : declaredValues baseUrlName job.functions.value = [] := by
  cases uses : job.plan.usesScenarios with
  | true =>
      rw [functions_value, if_pos uses, scenarioFunctions_spaced, Script.declaredValues_functions]
  | false =>
      rw [functions_single uses, declaredValues_append, Script.declaredValues_functions]
      rfl

theorem declared_baseUrl {job : Job} {declaration : Expr}
    (declared : declaration ∈ declaredValues baseUrlName job.program.value) :
    (∃ entry ∈ job.profileVariables, entry.key = baseUrlName ∧
      declaration = .binary "||" (.reference ("__ENV." ++ baseUrlName)) (.string entry.value)) ∨
    declaration = resolve (String.ofList job.trimmedBaseUrl) := by
  have header : declaredValues baseUrlName job.header.value = [] := by
    rw [header]
    split <;> rfl
  have imports : declaredValues baseUrlName job.imports = [] := by
    rw [imports]
    split <;> rfl
  have store : declaredValues baseUrlName job.chainingStore = [] := by
    rw [chainingStore]
    split <;> rfl
  have options : declaredValues baseUrlName job.optionsSection.value = [] := rfl
  simp only [program_value, declaredValues_append, header, imports, store, options,
    declaredValues_functions, List.nil_append, List.append_nil] at declared
  rcases List.mem_append.mp declared with inEnvironment | inBaseUrl
  · exact .inl (exists_of_declared_environment inEnvironment)
  · exact .inr (eq_resolve_of_declared_baseUrl inBaseUrl)

/-! What the constant and the URLs stand for. -/

theorem codeValue?_variable (values : Values) (unit : String) (level : Int) (value : String) :
    codeValue? values (exprText unit level
        (.binary "||" (.reference ("__ENV." ++ baseUrlName)) (.string value))) =
      some value.toList := by
  have setting : Reads [] ("__ENV." ++ baseUrlName ++ " " ++ "||" ++ " ")
      [.word "__ENV".toList, .punctuator ['.'], .word baseUrlName.toList, .punctuator ['|', '|']] [] :=
    reads_of_advance rfl
  rw [codeValue?, exprText, exprText, exprText, (setting.append (reads_quote value)).lex_eq]
  exact unescape_quoted value.toList

theorem codeValue?_requestUrl {url base : String} (configured : base ≠ "")
    (relative : isAbsolute url = false) (values : Values) (unit : String) (level : Int)
    {cut : Gapped (List Char)} (isCut : cut.IsCutOf (url.toList.dropWhile (· = '/'))) :
    codeValue? values (exprText unit level (requestUrl url base)) =
      some (values baseUrlName.toList ++ '/' :: (cut.mapTexts unifyLineEndsOf).fill values) := by
  have rest : (url.toList.dropWhile (· = '/')) =
      (String.ofList (url.toList.dropWhile (· = '/'))).toList := String.toList_ofList.symm
  rw [rest, Gapped.isCutOf_iff] at isCut
  have slash (characters : List Char) :
      Gapped.ofPieces (piecesFrom 0 ("/".toList ++ characters)) =
        (Gapped.ofPieces (piecesFrom 0 characters)).push ['/'] :=
    Gapped.ofPieces_pushText '/' _
  have nothing : unifyLineEndsOf [] = [] := rfl
  have unified (text : List Char) : unifyLineEndsOf ('/' :: text) = '/' :: unifyLineEndsOf text :=
    unifyLineEndsOf_cons_plain (by decide) text
  rw [requestUrl_eq_resolveTemplate configured relative, codeValue?_resolveTemplate, pieces_joined,
    String.toList_append, Gapped.ofPieces, slash, isCut, pieces]
  simp [Gapped.gap, Gapped.push, Gapped.mapTexts, Gapped.fill, unified, nothing]

theorem exists_base {job : Job} {declaration : Expr}
    (declared : declaration ∈ declaredValues baseUrlName job.program.value) (values : Values) :
    ∃ base, codeValue? values (exprText standardUnit 0 declaration) = some base ∧
      (base.getLast? = some '/' →
        (∃ entry ∈ job.profileVariables, entry.key = baseUrlName ∧ entry.value.toList = base) ∨
          EndsInPlaceholder job.trimmedBaseUrl) := by
  rcases declared_baseUrl declared with ⟨entry, listed, named, same⟩ | same
  · rw [same]
    exact ⟨_, codeValue?_variable values _ _ _, fun _ => .inl ⟨entry, listed, named, rfl⟩⟩
  · rw [same]
    obtain ⟨base, value, ends⟩ :=
      exists_codeValue?_resolve values standardUnit 0 (String.ofList job.trimmedBaseUrl)
    rw [String.toList_ofList] at ends
    refine ⟨base, value, fun slash => .inr ?_⟩
    rcases ends '/' (by decide) slash with last | placeholder
    · exact absurd (getLast?_dropEndWhile last) (by decide)
    · exact placeholder

/-- A URL that is joined to the base URL stands for what the constant of the base URL is declared to be, one
slash, and the URL without its slashes in front and with its placeholders filled in, where carriage returns
count as line feeds. The declared value has no slash at its end but for two cases: it is a variable of the
profile, or the base URL of the plan ends in a placeholder. Only then two slashes meet. -/
theorem requestUrl_value {job : Job} {declaration : Expr} {url : String}
    (configured : job.plan.baseUrl ≠ "")
    (declared : declaration ∈ declaredValues baseUrlName job.program.value)
    (relative : isAbsolute url = false) (unit : String) (level : Int) (earlier later : Values) :
    ∃ base,
      codeValue? earlier (exprText standardUnit 0 declaration) = some base ∧
      (base.getLast? = some '/' →
        (∃ entry ∈ job.profileVariables, entry.key = baseUrlName ∧ entry.value.toList = base) ∨
          EndsInPlaceholder job.trimmedBaseUrl) ∧
      ∀ cut : Gapped (List Char), cut.IsCutOf (url.toList.dropWhile (· = '/')) →
        let values := later.bind baseUrlName.toList base
        let code := exprText unit level (requestUrl url job.plan.baseUrl)
        codeValue? values code =
            some (base ++ '/' :: (cut.mapTexts unifyLineEndsOf).fill values) ∧
          ('\r' ∉ url.toList →
            (codeValue? values code =
                some (dropEndWhile (· = '/') base ++ '/' :: cut.fill values) ↔
              base.getLast? ≠ some '/')) := by
  obtain ⟨base, value, ends⟩ := exists_base declared earlier
  refine ⟨base, value, ends, ?_⟩
  intro cut isCut values code
  have bound : values baseUrlName.toList = base := if_pos rfl
  have joined : codeValue? values code =
      some (base ++ '/' :: (cut.mapTexts unifyLineEndsOf).fill values) := by
    rw [← bound]
    exact codeValue?_requestUrl configured relative values unit level isCut
  refine ⟨joined, fun noCarriage => ?_⟩
  have inside : '\r' ∉ url.toList.dropWhile (· = '/') :=
    fun member => noCarriage ((List.dropWhile_suffix _).mem member)
  rw [joined, Gapped.mapTexts_unifyLineEndsOf isCut inside, Option.some.injEq, List.append_left_inj,
    eq_comm]
  exact dropEndWhile_eq_self_iff

theorem requestUrl_value_relative :
    let job : Job := { plan := relativePlan, generatedAt := .ofEpoch 0 }
    job.plan.baseUrl ≠ "" ∧ isAbsolute "/items" = false ∧
      ∃ declaration ∈ declaredValues baseUrlName job.program.value,
        codeValue? (fun _ => []) (exprText standardUnit 0 declaration) = some "http://h".toList ∧
          codeValue? (Values.bind (fun _ => []) baseUrlName.toList "http://h".toList)
              (exprText standardUnit 0 (requestUrl "/items" job.plan.baseUrl)) =
            some "http://h/items".toList := by
  intro job
  have declared : resolve (String.ofList job.trimmedBaseUrl) ∈
      declaredValues baseUrlName job.program.value := declares_resolve (by decide)
  have cut : Gapped.IsCutOf ⟨"items".toList, []⟩ ("/items".toList.dropWhile (· = '/')) := by
    have characters : "/items".toList.dropWhile (· = '/') = "items".toList := by decide
    rw [characters, Gapped.isCutOf_iff]
    rfl
  have configured : job.plan.baseUrl ≠ "" := by decide
  have relative : isAbsolute "/items" = false := by decide
  obtain ⟨base, value, -, joins⟩ :=
    requestUrl_value configured declared relative standardUnit 0 (fun _ => []) (fun _ => [])
  have isBase : base = "http://h".toList := by
    have literal : resolve (String.ofList job.trimmedBaseUrl) = .string "http://h" := by
      rw [resolve, if_pos (by decide)]
      exact congrArg Expr.string (by decide)
    rw [literal] at value
    exact Option.some.inj (value.symm.trans (codeValue?_string _ "http://h"))
  subst isBase
  exact ⟨configured, relative, _, declared, value, (joins _ cut).1⟩

def slashedJob : Job where
  plan := { baseUrl := "https://x", profiles := [("dev", [⟨"BASE_URL", "https://dev.example.com/"⟩])] }
  generatedAt := .ofEpoch 0

/-- The value of a variable keeps the slash at its end, and the URL has another one. -/
theorem requestUrl_value_slashed :
    ¬ ∀ (job : Job) (declaration : Expr) (url : String) (earlier later : Values) (base : List Char)
        (cut : Gapped (List Char)),
      job.plan.baseUrl ≠ "" → declaration ∈ declaredValues baseUrlName job.program.value →
      isAbsolute url = false → cut.IsCutOf (url.toList.dropWhile (· = '/')) →
      codeValue? earlier (exprText standardUnit 0 declaration) = some base →
        codeValue? (later.bind baseUrlName.toList base)
            (exprText standardUnit 0 (requestUrl url job.plan.baseUrl)) =
          some (dropEndWhile (· = '/') base ++
            '/' :: cut.fill (later.bind baseUrlName.toList base)) := by
  intro joinsOnce
  have declared : .binary "||" (.reference ("__ENV." ++ baseUrlName)) (.string "https://dev.example.com/") ∈
      declaredValues baseUrlName slashedJob.program.value := List.mem_singleton_self _
  have cut : Gapped.IsCutOf ⟨"users".toList, []⟩ ("/users".toList.dropWhile (· = '/')) := by
    have characters : "/users".toList.dropWhile (· = '/') = "users".toList := by decide
    rw [characters, Gapped.isCutOf_iff]
    rfl
  have configured : slashedJob.plan.baseUrl ≠ "" := by decide
  have relative : isAbsolute "/users" = false := by decide
  have joined := joinsOnce slashedJob _ "/users" (fun _ => []) (fun _ => []) _ _ configured declared
    relative cut (codeValue?_variable _ standardUnit 0 "https://dev.example.com/")
  rw [codeValue?_requestUrl configured relative _ standardUnit 0 cut] at joined
  exact absurd joined (by decide)

end LoadScript.Compile.Job
