import LoadScript.Proofs.Compile.Safety
import LoadScript.Proofs.Script.Brackets

/-!
The brackets of a script are nested, and the script is not cut off.
-/

namespace LoadScript.Script

theorem areNested_exprCodes {items : List Expr} :
    AreNested (exprCodes items) ↔ ∀ item ∈ items, AreNested item.codes := by
  induction items with
  | nil => simp [exprCodes, AreNested]
  | cons item rest ih => rw [exprCodes, areNested_append, ih, List.forall_mem_cons]

theorem areNested_entryCodes {entries : List (String × Expr)} :
    AreNested (entryCodes entries) ↔ ∀ entry ∈ entries, AreNested entry.2.codes := by
  induction entries with
  | nil => simp [entryCodes, AreNested]
  | cons entry rest ih => rw [entryCodes, areNested_append, ih, List.forall_mem_cons]

theorem areNested_bodyCodes {body : List Stmt} :
    AreNested (bodyCodes body) ↔ ∀ stmt ∈ body, AreNested stmt.codes := by
  induction body with
  | nil => simp [bodyCodes, AreNested]
  | cons stmt rest ih => rw [bodyCodes, areNested_append, ih, List.forall_mem_cons]

theorem areNested_bodyCodes_append {first second : List Stmt} :
    AreNested (bodyCodes (first ++ second)) ↔ AreNested (bodyCodes first) ∧ AreNested (bodyCodes second) := by
  simp only [areNested_bodyCodes]
  exact List.forall_mem_append

theorem isNested_joined {first second : String} (firstNested : IsNested first.toList)
    (secondNested : IsNested second.toList) : IsNested (first ++ second).toList := by
  rw [String.toList_append]
  exact firstNested.append secondNested

theorem isNested_nat (value : Nat) : IsNested (toString value).toList :=
  isNested_of_noBracket fun character member =>
    noBracket_of_kind Double.isNumeric (by decide) (Double.allNumeric_toString value character member)

theorem isNested_referenceName {name : List Char} (all : ∀ character ∈ name, isNamePart character = true) :
    IsNested (referenceName (String.ofList name)).toList := by
  have named : IsNested (String.ofList name).toList := by
    rw [String.toList_ofList]
    exact isNested_of_noBracket fun character member =>
      noBracket_of_kind isNamePart (by decide) (all character member)
  rw [referenceName]
  split
  · exact named
  · exact isNested_joined (by decide) named

theorem partCodes_pushText (character : Char) (pieces : List Piece) :
    partCodes ((pushText character pieces).map Piece.toPart) = partCodes (pieces.map Piece.toPart) := by
  fun_cases pushText character pieces <;> rfl

theorem areNested_piecesFrom (skip : Nat) (text : List Char) :
    AreNested (partCodes ((piecesFrom skip text).map Piece.toPart)) := by
  fun_induction piecesFrom skip text with
  | case1 => exact List.forall_mem_nil _
  | case2 skip character rest ih => exact ih
  | case3 character rest name found ih =>
      exact areNested_cons.mpr ⟨isNested_referenceName (placeholderAt?_name found), ih⟩
  | case4 character rest none ih => rwa [partCodes_pushText]

theorem resolveTemplate_areNested (value : String) : AreNested (resolveTemplate value).codes :=
  areNested_piecesFrom 0 value.toList

theorem resolve_areNested (value : String) : AreNested (resolve value).codes := by
  rw [resolve]
  split
  · exact List.forall_mem_nil _
  · exact resolveTemplate_areNested value

end LoadScript.Script

namespace LoadScript.Compile

open Script

theorem isBlank_of_isBracket {character : Char} (bracket : isBracket character = true) :
    Text.isBlank character = false := by
  have all : ∀ mark ∈ "()[]\x7b\x7d".toList, Text.isBlank mark = false := by decide
  exact all character (mem_of_isBracket bracket)

theorem filter_intercalate {separator : List Char} (nothing : separator.filter isBracket = [])
    (words : List (List Char)) :
    (separator.intercalate words).filter isBracket = words.flatten.filter isBracket := by
  induction words with
  | nil => rfl
  | cons word rest ih =>
      cases rest with
      | nil => simp
      | cons next others =>
          rw [List.intercalate_cons_cons, List.filter_append, List.filter_append, nothing, List.append_nil, ih,
            ← List.filter_append]
          rfl

theorem functionName_isNested {scenario : Scenario} (nested : IsNested scenario.name.toList) :
    IsNested scenario.functionName.toList := by
  have words : (Text.words scenario.name).map String.toList = Text.wordsOf scenario.name.toList := by
    simp [Text.words]
  have same : scenario.functionName.toList.filter isBracket = scenario.name.toList.filter isBracket := by
    rw [Scenario.functionName, String.toList_intercalate, words, filter_intercalate (by decide),
      Text.flatten_wordsOf, List.filter_filter]
    apply List.filter_congr
    intro character _
    cases bracket : isBracket character with
    | false => rfl
    | true => simp [isBlank_of_isBracket bracket]
  rwa [← isNested_filter, same, isNested_filter]

/-! The block of a request. -/

theorem headerCandidates_areNested (request : Request) :
    ∀ header ∈ headerCandidates request, AreNested header.2.codes := by
  have authorized : ∀ header ∈ authorization request, AreNested header.2.codes := by
    rw [authorization]
    split
    · split
      · exact List.forall_mem_nil _
      · exact List.forall_mem_singleton.mpr (resolve_areNested _)
    · next credentials _ _ =>
        have encoded : AreNested (Expr.call "encoding.b64encode"
            [resolve (credentials.user ++ ":" ++ credentials.password)]).codes :=
          areNested_cons.mpr ⟨by decide, areNested_exprCodes.mpr (List.forall_mem_singleton.mpr
            (resolve_areNested _))⟩
        exact List.forall_mem_singleton.mpr (areNested_append.mpr ⟨encoded, List.forall_mem_nil _⟩)
    · exact List.forall_mem_nil _
  have declared : ∀ header ∈ declaredHeaders request, AreNested header.2.codes := by
    intro header member
    obtain ⟨written, _, rfl⟩ := List.mem_map.mp member
    exact resolve_areNested _
  have content : ∀ header ∈ contentType request, AreNested header.2.codes := by
    rw [contentType]
    split
    · exact List.forall_mem_singleton.mpr (List.forall_mem_nil _)
    · exact List.forall_mem_nil _
  simp only [headerCandidates, List.forall_mem_append]
  exact ⟨⟨authorized, declared⟩, content⟩

theorem requestHeaders_areNested (request : Request) :
    AreNested (entryCodes (requestHeaders request)) :=
  areNested_entryCodes.mpr fun header member =>
    headerCandidates_areNested request header (mergeHeaders_subset _ _ _ member)

theorem callStmts_areNested (request : Request) (baseUrl : String) :
    AreNested (bodyCodes (callStmts request baseUrl)) := by
  have function : IsNested (httpFunction request.method).toList := by
    cases request.method <;> decide
  have url : AreNested (requestUrl request.url baseUrl).codes := by
    rw [requestUrl]
    split <;> exact resolve_areNested _
  simp only [callStmts]
  split
  · simp +decide [bodyCodes, Stmt.constant, Stmt.codes, Expr.codes, exprCodes, areNested_append,
      areNested_cons, function, url, resolveTemplate_areNested]
  · simp +decide [bodyCodes, Stmt.constant, Stmt.codes, Expr.codes, exprCodes, areNested_append,
      areNested_cons, function, url]

theorem extractionStmts_areNested {extraction : Extraction} (nested : AreNested extraction.verbatimTexts) :
    AreNested (bodyCodes (extractionStmts extraction)) := by
  rw [extractionStmts]
  split
  · next active =>
      rw [Extraction.verbatimTexts, if_pos active, areNested_cons] at nested
      have target : IsNested (chained extraction.savedAs).toList := isNested_joined (by decide) nested.1
      have value : AreNested (extractedValue extraction.path).codes := by
        rcases extractedValue_cases extraction.path with ⟨rest, literal⟩ | ⟨notRooted, code⟩
        · rw [literal]
          exact (by decide : AreNested ["res.json"])
        · rw [code]
          exact List.forall_mem_singleton.mpr
            (isNested_joined (by decide) (nested.2 _ (by simp [notRooted])))
      simp +decide [bodyCodes, Stmt.codes, Expr.codes, exprCodes, areNested_append, areNested_cons, target,
        value]
  · exact List.forall_mem_nil _

theorem checkStmts_areNested {checks : List Check}
    (nested : ∀ check ∈ checks, IsNested check.condition.toList) :
    AreNested (bodyCodes (checkStmts checks)) := by
  have conditions : AreNested (entryCodes
      (checks.map fun check => (check.name, Expr.arrow ["r"] (.raw check.condition)))) := by
    rw [areNested_entryCodes]
    intro entry member
    obtain ⟨check, isCheck, rfl⟩ := List.mem_map.mp member
    exact areNested_cons.mpr ⟨by decide, List.forall_mem_singleton.mpr (nested check isCheck)⟩
  rw [checkStmts]
  split
  · exact List.forall_mem_nil _
  · simp +decide [bodyCodes, Stmt.codes, Expr.codes, exprCodes, areNested_cons, conditions]

theorem pauseStmts_areNested (thinkTime : ThinkTime) (request : Request) :
    AreNested (bodyCodes (pauseStmts thinkTime request)) := by
  rw [pauseStmts]
  split
  · exact (by decide : AreNested ["sleep"])
  · exact List.forall_mem_nil _

theorem requestBody_areNested {request : Request} (nested : AreNested request.verbatimTexts)
    (baseUrl : String) (thinkTime : ThinkTime) :
    AreNested (bodyCodes (requestBody request baseUrl thinkTime (requestHeaders request))) := by
  obtain ⟨conditions, extraction⟩ := areNested_append.mp nested
  have checks := checkStmts_areNested fun check member =>
    conditions check.condition (List.mem_map_of_mem member)
  have parameters : AreNested (bodyCodes [.constant "params"
      (.object [("headers", .object (requestHeaders request) true false)] false false), .blank]) := by
    simp +decide [bodyCodes, Stmt.constant, Stmt.codes, Expr.codes, entryCodes, areNested_cons,
      requestHeaders_areNested]
  have blank : AreNested (bodyCodes [.blank]) := List.forall_mem_nil _
  simp only [requestBody, areNested_bodyCodes_append]
  exact ⟨⟨⟨⟨⟨parameters, callStmts_areNested request baseUrl⟩, blank⟩,
    extractionStmts_areNested extraction⟩, checks⟩, pauseStmts_areNested thinkTime request⟩

namespace Job

theorem blocks_areNested (job : Job) (requests : List Request)
    (nested : ∀ request ∈ requests, AreNested request.verbatimTexts) :
    AreNested (bodyCodes (job.blocks requests).value) := by
  rw [blocks_value, areNested_bodyCodes]
  intro stmt member
  simp only [List.mem_flatMap, List.mem_cons, List.not_mem_nil, or_false] at member
  obtain ⟨request, isRequest, rfl | rfl⟩ := member
  · exact requestBody_areNested (nested request isRequest) _ _
  · exact List.forall_mem_nil _

/-! The options, which have no code. -/

theorem shapeOptions_areNested (shape : LoadShape) : AreNested (entryCodes shape.options) := by
  cases shape with
  | constant users duration => exact List.forall_mem_nil _
  | staged stages =>
      have items : AreNested (exprCodes (stages.map stageOption)) := by
        rw [areNested_exprCodes]
        intro item member
        obtain ⟨stage, _, rfl⟩ := List.mem_map.mp member
        exact List.forall_mem_nil _
      exact areNested_append.mpr ⟨items, List.forall_mem_nil _⟩
  | scheduled scenarios =>
      have entries : AreNested (entryCodes
          (scenarios.map fun scenario => (scenario.name, scenarioOption scenario))) := by
        rw [areNested_entryCodes]
        intro entry member
        obtain ⟨scenario, _, rfl⟩ := List.mem_map.mp member
        simp only [scenarioOption]
        split <;> exact List.forall_mem_nil _
      exact areNested_append.mpr ⟨entries, List.forall_mem_nil _⟩

theorem optionsSection_areNested (job : Job) : AreNested (bodyCodes job.optionsSection.value) := by
  have thresholds : AreNested (entryCodes (thresholdOptions job.plan.thresholds)) := by
    rw [thresholdOptions]
    split <;> exact List.forall_mem_nil _
  have entries : AreNested
      (entryCodes ((loadShape job.plan).value.options ++ thresholdOptions job.plan.thresholds)) := by
    rw [areNested_entryCodes, List.forall_mem_append, ← areNested_entryCodes, ← areNested_entryCodes]
    exact ⟨shapeOptions_areNested _, thresholds⟩
  rw [optionsSection_value, areNested_bodyCodes, List.forall_mem_cons, List.forall_mem_singleton]
  exact ⟨areNested_cons.mpr ⟨by decide, areNested_cons.mpr ⟨by decide, entries⟩⟩, List.forall_mem_nil _⟩

/-! The functions. -/

theorem casesFrom_areNested (job : Job) {requests : List Request}
    (nested : ∀ request ∈ requests, AreNested request.verbatimTexts) :
    ∀ index, AreNested (caseCodes (job.casesFrom index requests).value) := by
  induction requests with
  | nil => intro index; exact List.forall_mem_nil _
  | cons request rest ih =>
      intro index
      rw [List.forall_mem_cons] at nested
      have first := requestBody_areNested nested.1 job.plan.baseUrl job.plan.thinkTime
      have others := ih nested.2 (index + 1)
      simp only [casesFrom, Logged.value_bind, Logged.value_pure, caseCodes, bodyCodes, block_value,
        Stmt.codes, Expr.codes, List.nil_append, List.append_nil]
      exact areNested_append.mpr ⟨first, others⟩

theorem helperName_isNested (index : Nat) : IsNested (helperName index).toList :=
  isNested_joined (by decide) (isNested_nat index)

theorem entryBody_areNested {job : Job}
    (nested : ∀ request ∈ job.plan.requests, AreNested request.verbatimTexts) :
    AreNested (bodyCodes job.entryBody.value) := by
  simp only [entryBody]
  split
  · exact List.forall_mem_nil _
  · split
    · rw [Logged.value_pure, areNested_bodyCodes, List.forall_mem_cons]
      refine ⟨List.forall_mem_nil _, fun stmt member => ?_⟩
      obtain ⟨index, _, rfl⟩ := List.mem_map.mp member
      exact List.forall_mem_singleton.mpr (helperName_isNested index)
    · have range : IsNested
          ("Math.floor(Math.random() * " ++ toString job.plan.requests.length ++ ")").toList := by
        have opening : dueBehind? [] "Math.floor(Math.random() * ".toList = some [')'] := by decide
        rw [String.toList_append, String.toList_append, IsNested, dueBehind?_append, dueBehind?_append,
          opening, Option.bind_some, (isNested_nat _).passes]
        rfl
      have constant : AreNested ["const", "apiIndex",
          "Math.floor(Math.random() * " ++ toString job.plan.requests.length ++ ")"] :=
        areNested_cons.mpr ⟨by decide, areNested_cons.mpr ⟨by decide, List.forall_mem_singleton.mpr range⟩⟩
      have dispatch := areNested_cons.mpr ⟨(by decide : IsNested "apiIndex".toList),
        casesFrom_areNested job nested 0⟩
      simp only [Logged.value_bind, Logged.value_pure, areNested_bodyCodes, List.forall_mem_cons]
      exact ⟨List.forall_mem_nil _, constant, dispatch, List.forall_mem_nil _⟩
    · exact blocks_areNested job _ nested

theorem pause_areNested (job : Job) : AreNested (bodyCodes job.pause) := by
  simp only [pause]
  split
  · exact (by decide : AreNested ["sleep"])
  · exact (by decide : AreNested ["sleep", "+", "Math.random()", "*"])
  · exact List.forall_mem_nil _

theorem withPause_areNested {pause body : List Stmt} (pauseNested : AreNested (bodyCodes pause))
    (bodyNested : AreNested (bodyCodes body)) : AreNested (bodyCodes (withPause pause body)) := by
  rw [withPause]
  split
  · exact bodyNested
  · split
    · exact areNested_bodyCodes_append.mpr ⟨bodyNested, pauseNested⟩
    · exact areNested_bodyCodes_append.mpr ⟨bodyNested, pauseNested⟩

theorem functions_areNested {job : Job}
    (nested : ∀ request ∈ job.plan.requests, AreNested request.verbatimTexts)
    (names : ∀ scenario ∈ job.plan.scenarios, IsNested scenario.name.toList) :
    AreNested (bodyCodes job.functions.value) := by
  rw [functions_value]
  split
  · rw [scenarioFunctions_value, areNested_bodyCodes]
    intro stmt member
    simp only [List.mem_flatMap, List.mem_cons, List.not_mem_nil, or_false] at member
    obtain ⟨scenario, isScenario, rfl | rfl⟩ := member
    · exact areNested_cons.mpr ⟨functionName_isNested (names scenario isScenario), blocks_areNested job _
        fun request selected => nested request (selectedRequests_subset job scenario selected)⟩
    · exact List.forall_mem_nil _
  · rw [areNested_bodyCodes_append]
    constructor
    · split
      · rw [parallelHelpers, helpersFrom_value, areNested_bodyCodes]
        intro stmt member
        simp only [List.mem_flatMap, List.mem_cons, List.not_mem_nil, or_false] at member
        obtain ⟨⟨request, position⟩, place, rfl | rfl⟩ := member
        · have inside : request ∈ job.plan.requests := (List.mem_zipIdx place).2.2 ▸ List.getElem_mem _
          exact areNested_cons.mpr ⟨helperName_isNested position,
            blocks_areNested job [request] (List.forall_mem_singleton.mpr (nested request inside))⟩
        · exact List.forall_mem_nil _
      · exact List.forall_mem_nil _
    · rw [defaultFunction_value, areNested_bodyCodes, List.forall_mem_singleton]
      exact areNested_cons.mpr
        ⟨by decide, withPause_areNested (pause_areNested job) (entryBody_areNested nested)⟩

/-! The sections of a script. -/

theorem environment_areNested {job : Job}
    (nested : ∀ entry ∈ job.profileVariables, IsNested entry.key.toList) :
    AreNested (bodyCodes job.environment) := by
  have constants : AreNested (bodyCodes (job.profileVariables.map variableStmt)) := by
    rw [areNested_bodyCodes]
    intro stmt member
    obtain ⟨entry, isEntry, rfl⟩ := List.mem_map.mp member
    have key := nested entry isEntry
    have value : IsNested ("__ENV." ++ entry.key).toList := isNested_joined (by decide) key
    have operator : AreNested ["||"] := by decide
    exact areNested_cons.mpr ⟨by decide, areNested_cons.mpr ⟨key, areNested_cons.mpr ⟨value, operator⟩⟩⟩
  rw [environment]
  split
  · exact List.forall_mem_nil _
  · simp only [areNested_bodyCodes_append]
    exact ⟨⟨List.forall_mem_nil _, constants⟩, List.forall_mem_nil _⟩

theorem program_areNested {job : Job} (nested : job.plan.HasNestedCode) :
    AreNested (bodyCodes job.program.value) := by
  obtain ⟨requests, names, keys⟩ := forall_verbatimTexts nested
  have header : AreNested (bodyCodes job.header.value) := by
    rw [Job.header]
    split <;> exact List.forall_mem_nil _
  have imports : AreNested (bodyCodes job.imports) := by
    rw [Job.imports]
    split <;> decide
  have baseUrl : AreNested (bodyCodes job.baseUrl.value) := by
    simp only [Job.baseUrl]
    split
    · exact List.forall_mem_nil _
    · split
      · exact List.forall_mem_nil _
      · simp +decide [bodyCodes, Stmt.constant, Stmt.codes, areNested_cons, resolve_areNested]
  have store : AreNested (bodyCodes job.chainingStore) := by
    rw [chainingStore]
    split <;> decide
  simp only [program_value, areNested_bodyCodes_append]
  exact ⟨⟨⟨⟨⟨⟨header, imports⟩, environment_areNested keys⟩, baseUrl⟩, store⟩,
    optionsSection_areNested job⟩, functions_areNested requests names⟩

/-- Scripts are never cut off or unbalanced. If the brackets in the code of a plan are nested, its script is
read to an end outside of literals and comments, and the brackets outside of them are nested, whatever stands
in the literals and comments. Only a number that is too long is in the way of a script. -/
theorem script_isNested {job : Job} (plain : job.plan.HasPlainCode) (nested : job.plan.HasNestedCode) :
    (optionsAreWritable job.plan = true →
      ∃ text tokens, job.script.value = .ok text ∧
        advance ⟨.between, []⟩ text.toList = some (tokens, ⟨.between, []⟩) ∧
        IsNested (brackets tokens)) ∧
    (optionsAreWritable job.plan = false → job.script.value = .error .written) := by
  have script : job.script.value =
      if optionsAreWritable job.plan then .ok job.text.value else .error .written := rfl
  rw [script]
  constructor
  · intro writable
    obtain ⟨tokens, read, isNested⟩ :=
      isNested_render isIndent_standardUnit 0 (program_isSafe plain) (program_areNested nested)
    rw [if_pos writable]
    exact ⟨_, tokens, rfl, read, isNested⟩
  · intro unwritable
    simp [unwritable]

def bracketedPlan : Plan := {
  name := "*/ ) ] \x7d"
  profiles := [("dev", [⟨"API_KEY", "'\n\x7d ("⟩])]
  scenarios := [{ name := "smoke test (fast)" }]
  scenariosEnabled := true
  requests := [{
    name := "group( \x60$\x7b"
    method := .post
    url := "https://api.example.com/items?q=[$\x7btoken\x7d"
    body := "$\x7btoken\x7d ) $\x7b \x7b"
    extraction := { enabled := true, savedAs := "ids", path := "map((item) => item.tags[0])" }
    checks := [⟨"')", "r.json().some((t) => \x7b return t[0] \x7d)"⟩] }] }

theorem script_isNested_bracketedPlan :
    bracketedPlan.HasPlainCode ∧ bracketedPlan.HasNestedCode ∧
      ∃ text tokens, (mk bracketedPlan "dev" (.ofEpoch 0) "script.js").script.value = .ok text ∧
        advance ⟨.between, []⟩ text.toList = some (tokens, ⟨.between, []⟩) ∧
        IsNested (brackets tokens) := by
  have plain : bracketedPlan.HasPlainCode := by
    unfold Plan.HasPlainCode
    decide +kernel
  have nested : bracketedPlan.HasNestedCode := by
    unfold Plan.HasNestedCode
    decide +kernel
  have writable : optionsAreWritable bracketedPlan = true := by decide +kernel
  exact ⟨plain, nested,
    (@script_isNested (mk bracketedPlan "dev" (.ofEpoch 0) "script.js") plain nested).1 writable⟩

end Job

end LoadScript.Compile
