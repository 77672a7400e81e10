import LoadScript.Compile.Texts
import LoadScript.Proofs.Compile.Sections
import LoadScript.Proofs.Script.Placeholders
import LoadScript.Proofs.Script.Statements
import LoadScript.Proofs.Text.Words

/-!
The program of a plan with plain code is safe: each text of the plan is a literal, a comment, or code that may
stand as it is.
-/

namespace LoadScript.Script

theorem Expr.IsSafe.ofReference {inserted : Bool} {name : String} (verbatim : IsVerbatim inserted name) :
    (Expr.reference name).IsSafe inserted := verbatim

theorem Expr.IsSafe.ofRaw {inserted : Bool} {code : String} (verbatim : IsVerbatim inserted code) :
    (Expr.raw code).IsSafe inserted := verbatim

theorem exprsAreSafe_iff {inserted : Bool} {items : List Expr} :
    ExprsAreSafe inserted items ↔ ∀ item ∈ items, item.IsSafe inserted := by
  induction items with
  | nil => exact ⟨fun _ => List.forall_mem_nil _, fun _ => trivial⟩
  | cons item rest ih =>
      rw [List.forall_mem_cons, ← ih]
      exact Iff.rfl

theorem entriesAreSafe_iff {inserted : Bool} {entries : List (String × Expr)} :
    EntriesAreSafe inserted entries ↔ ∀ entry ∈ entries, entry.2.IsSafe inserted := by
  induction entries with
  | nil => exact ⟨fun _ => List.forall_mem_nil _, fun _ => trivial⟩
  | cons entry rest ih =>
      rw [List.forall_mem_cons, ← ih]
      exact Iff.rfl

theorem bodyIsSafe_iff {body : List Stmt} : BodyIsSafe body ↔ ∀ stmt ∈ body, stmt.IsSafe := by
  induction body with
  | nil => exact ⟨fun _ => List.forall_mem_nil _, fun _ => trivial⟩
  | cons stmt rest ih =>
      rw [List.forall_mem_cons, ← ih]
      exact Iff.rfl

theorem entriesAreSafe_append {inserted : Bool} {first second : List (String × Expr)} :
    EntriesAreSafe inserted (first ++ second) ↔
      EntriesAreSafe inserted first ∧ EntriesAreSafe inserted second := by
  simp only [entriesAreSafe_iff]
  exact List.forall_mem_append

theorem bodyIsSafe_append {first second : List Stmt} :
    BodyIsSafe (first ++ second) ↔ BodyIsSafe first ∧ BodyIsSafe second := by
  simp only [bodyIsSafe_iff]
  exact List.forall_mem_append

theorem isVerbatim_intercalate {inserted : Bool} {separator : String} {parts : List String}
    (separatorVerbatim : IsVerbatim inserted separator)
    (verbatim : ∀ part ∈ parts, IsVerbatim inserted part) :
    IsVerbatim inserted (String.intercalate separator parts) := by
  induction parts with
  | nil => simp [IsVerbatim]
  | cons part rest ih =>
      cases rest with
      | nil => simpa using verbatim part (by simp)
      | cons next rest =>
          rw [String.intercalate_cons_cons, isVerbatim_append, isVerbatim_append]
          exact ⟨⟨verbatim part (by simp), separatorVerbatim⟩,
            ih fun other member => verbatim other (by simp [member])⟩

theorem isVerbatim_nat (value : Nat) (inserted : Bool) : IsVerbatim inserted (toString value) :=
  isVerbatim_of_allNumeric (Double.allNumeric_toString value) inserted

end LoadScript.Script

namespace LoadScript.Compile

open Script

theorem functionName_isVerbatim {scenario : Scenario} (plain : IsVerbatim false scenario.name) :
    IsVerbatim false scenario.functionName := by
  apply isVerbatim_intercalate (by decide)
  intro word member
  simp only [Text.words, List.mem_map] at member
  obtain ⟨characters, isWord, rfl⟩ := member
  intro character inside
  rw [String.toList_ofList] at inside
  exact plain character (Text.wordsOf_subset _ characters isWord inside)

/-! The block of a request. -/

theorem authorization_isSafe (request : Request) :
    EntriesAreSafe false (authorization request) := by
  rw [authorization]
  split
  · split
    · trivial
    · exact ⟨resolve_isSafe false _, trivial⟩
  · next credentials =>
      refine ⟨⟨?_, ⟨by decide, resolve_isSafe true _, trivial⟩, trivial⟩, trivial⟩
      intro value first
      cases first
  · trivial

theorem headerCandidates_isSafe (request : Request) :
    ∀ header ∈ headerCandidates request, header.2.IsSafe false := by
  intro header member
  simp only [headerCandidates, List.mem_append] at member
  rcases member with (isAuthorization | isDeclared) | isContentType
  · exact entriesAreSafe_iff.mp (authorization_isSafe request) header isAuthorization
  · simp only [declaredHeaders, List.mem_map] at isDeclared
    obtain ⟨declared, _, rfl⟩ := isDeclared
    exact resolve_isSafe false declared.value
  · rw [contentType] at isContentType
    split at isContentType
    · rw [List.mem_singleton.mp isContentType]
      trivial
    · cases isContentType

theorem mergeHeaders_subset (requestName : String) (candidates : List (String × Expr)) : ∀ seen,
    (mergeHeaders requestName seen candidates).value ⊆ candidates := by
  induction candidates with
  | nil => intro seen; simp [mergeHeaders]
  | cons candidate rest ih =>
      intro seen
      rw [mergeHeaders]
      split
      · exact List.subset_cons_of_subset _ (ih seen)
      · exact List.cons_subset_cons _ (ih _)

theorem requestHeaders_isSafe (request : Request) : EntriesAreSafe false (requestHeaders request) :=
  entriesAreSafe_iff.mpr fun header member =>
    headerCandidates_isSafe request header (mergeHeaders_subset _ _ _ member)

theorem requestUrl_isSafe (url baseUrl : String) : (requestUrl url baseUrl).IsSafe false := by
  rw [requestUrl]
  split <;> simp only [resolve_isSafe]

theorem callStmts_isSafe (request : Request) (baseUrl : String) :
    BodyIsSafe (callStmts request baseUrl) := by
  have function : IsVerbatim false (httpFunction request.method) := by
    cases request.method <;> decide
  have url := requestUrl_isSafe request.url baseUrl
  have parameters : (Expr.reference "params").IsSafe false := .ofReference (by decide)
  simp only [callStmts]
  split
  · exact ⟨⟨by decide, by decide, resolveTemplate_isSafe false _⟩,
      ⟨by decide, by decide, function, url, .ofReference (by decide), parameters, trivial⟩, trivial⟩
  · exact ⟨⟨by decide, by decide, function, url, parameters, trivial⟩, trivial⟩

theorem extractedValue_cases (path : String) :
    (∃ rest, extractedValue path = .call "res.json" [.string rest]) ∨
      Text.startsWith path "$." = false ∧ extractedValue path = .raw ("res.json()." ++ path) := by
  rw [extractedValue, Text.startsWith]
  cases Text.dropStart? "$.".toList path.toList with
  | some rest => exact .inl ⟨_, rfl⟩
  | none => exact .inr ⟨rfl, rfl⟩

theorem extractedValue_isSafe (path : String)
    (plain : Text.startsWith path "$." = false → IsVerbatim false path) :
    (extractedValue path).IsSafe false := by
  rcases extractedValue_cases path with ⟨rest, literal⟩ | ⟨notRooted, code⟩
  · rw [literal]
    exact ⟨by decide, trivial, trivial⟩
  · rw [code]
    exact isVerbatim_append.mpr ⟨by decide, plain notRooted⟩

theorem extractionStmts_isSafe {extraction : Extraction}
    (plain : ∀ text ∈ extraction.verbatimTexts, IsVerbatim false text) :
    BodyIsSafe (extractionStmts extraction) := by
  rw [extractionStmts]
  split
  · next active =>
      rw [Extraction.verbatimTexts, if_pos active] at plain
      have target : IsVerbatim false (chained extraction.savedAs) :=
        isVerbatim_append.mpr ⟨by decide, plain _ (by simp)⟩
      have value := extractedValue_isSafe extraction.path
        fun notRooted => plain _ (by simp [notRooted])
      have report : (Stmt.evaluate (.call "console.log" [.string ("Extracted " ++ extraction.savedAs ++ ":"),
          .reference (chained extraction.savedAs)])).IsSafe :=
        ⟨by decide, trivial, .ofReference target, trivial⟩
      exact ⟨trivial, ⟨.ofRaw (by decide), ⟨target, value⟩, report, trivial⟩, trivial, trivial⟩
  · trivial

theorem checkStmts_isSafe {checks : List Check}
    (plain : ∀ check ∈ checks, IsVerbatim false check.condition) : BodyIsSafe (checkStmts checks) := by
  have conditions : EntriesAreSafe false
      (checks.map fun check => (check.name, Expr.arrow ["r"] (.raw check.condition))) := by
    rw [entriesAreSafe_iff]
    intro entry member
    simp only [List.mem_map] at member
    obtain ⟨check, isCheck, rfl⟩ := member
    exact ⟨by decide, .ofRaw (plain check isCheck)⟩
  rw [checkStmts]
  split
  · trivial
  · exact ⟨⟨by decide, .ofReference (by decide), conditions, trivial⟩, trivial⟩

theorem pauseStmts_isSafe (thinkTime : ThinkTime) (request : Request) :
    BodyIsSafe (pauseStmts thinkTime request) := by
  rw [pauseStmts]
  split
  · exact ⟨⟨by decide, trivial, trivial⟩, trivial⟩
  · trivial

theorem requestBody_isSafe {request : Request}
    (plain : ∀ text ∈ request.verbatimTexts, IsVerbatim false text) (baseUrl : String)
    (thinkTime : ThinkTime) :
    BodyIsSafe (requestBody request baseUrl thinkTime (requestHeaders request)) := by
  rw [Request.verbatimTexts, List.forall_mem_append] at plain
  have checks := checkStmts_isSafe fun check member =>
    plain.1 check.condition (List.mem_map_of_mem member)
  have parameters : BodyIsSafe [.constant "params"
      (.object [("headers", .object (requestHeaders request) true false)] false false), .blank] :=
    ⟨⟨by decide, by decide, requestHeaders_isSafe request, trivial⟩, trivial, trivial⟩
  have blank : BodyIsSafe [.blank] := ⟨trivial, trivial⟩
  simp only [requestBody, bodyIsSafe_append]
  exact ⟨⟨⟨⟨⟨parameters, callStmts_isSafe request baseUrl⟩, blank⟩, extractionStmts_isSafe plain.2⟩,
    checks⟩, pauseStmts_isSafe thinkTime request⟩

namespace Job

theorem blocks_isSafe (job : Job) (requests : List Request)
    (plain : ∀ request ∈ requests, ∀ text ∈ request.verbatimTexts, IsVerbatim false text) :
    BodyIsSafe (job.blocks requests).value := by
  rw [blocks_value, bodyIsSafe_iff]
  intro stmt member
  simp only [List.mem_flatMap, List.mem_cons, List.not_mem_nil, or_false] at member
  obtain ⟨request, isRequest, rfl | rfl⟩ := member
  · exact requestBody_isSafe (plain request isRequest) _ _
  · trivial

theorem environment_isSafe {job : Job}
    (plain : ∀ entry ∈ job.profileVariables, IsVerbatim false entry.key) :
    BodyIsSafe job.environment := by
  have constants : BodyIsSafe (job.profileVariables.map variableStmt) := by
    rw [bodyIsSafe_iff]
    intro stmt member
    obtain ⟨entry, isEntry, rfl⟩ := List.mem_map.mp member
    have key := plain entry isEntry
    exact ⟨by decide, key, isVerbatim_append.mpr ⟨by decide, key⟩, by decide, trivial⟩
  rw [environment]
  split
  · trivial
  · simp only [bodyIsSafe_append]
    exact ⟨⟨⟨trivial, trivial, trivial, trivial⟩, constants⟩, trivial, trivial⟩

theorem header_isSafe (job : Job) : BodyIsSafe job.header.value := by
  have opening (lines : List String) : BodyIsSafe [.blockComment lines false, .blank] :=
    ⟨trivial, trivial, trivial⟩
  rw [header]
  split
  · exact bodyIsSafe_append.mpr ⟨opening _, trivial, trivial, trivial⟩
  · exact opening _

theorem imports_isSafe (job : Job) : BodyIsSafe job.imports := by
  have imported (source name : String) (verbatim : IsVerbatim false name) :
      (Stmt.importFrom source (some name) []).IsSafe :=
    ⟨fun _ same => Option.some.inj same ▸ verbatim, List.forall_mem_nil _⟩
  have functions : (Stmt.importFrom "k6" none ["check", "group", "sleep"]).IsSafe := by
    refine ⟨?_, (by decide : ∀ name ∈ ["check", "group", "sleep"], IsVerbatim false name)⟩
    rintro _ ⟨⟩
  rw [imports, bodyIsSafe_append, bodyIsSafe_append]
  refine ⟨⟨⟨imported _ _ (by decide), functions, trivial⟩, ?_⟩, trivial, trivial⟩
  split
  · exact ⟨imported _ _ (by decide), trivial⟩
  · trivial

theorem baseUrl_isSafe (job : Job) : BodyIsSafe job.baseUrl.value := by
  simp only [baseUrl]
  split
  · trivial
  · split
    · trivial
    · rw [Logged.value_pure]
      have isSafe (value : String) : (Stmt.constant baseUrlName (resolve value)).IsSafe :=
        ⟨by decide, by decide, resolve_isSafe false value⟩
      exact ⟨isSafe _, trivial, trivial⟩

theorem chainingStore_isSafe (job : Job) : BodyIsSafe job.chainingStore := by
  rw [chainingStore]
  split
  · exact ⟨trivial, ⟨by decide, by decide, .ofRaw (by decide)⟩, trivial, trivial⟩
  · trivial

theorem stageOption_isSafe (stage : Stage) : (stageOption stage).IsSafe false :=
  ⟨trivial, trivial, trivial⟩

theorem scenarioOption_isSafe (scenario : Scenario) : (scenarioOption scenario).IsSafe false := by
  simp only [scenarioOption]
  split <;> exact ⟨trivial, trivial, trivial, trivial, trivial, trivial⟩

theorem shapeOptions_isSafe (shape : LoadShape) : EntriesAreSafe false shape.options := by
  cases shape with
  | constant users duration => exact ⟨trivial, trivial, trivial⟩
  | staged stages =>
      refine ⟨exprsAreSafe_iff.mpr ?_, trivial⟩
      intro item member
      obtain ⟨stage, _, rfl⟩ := List.mem_map.mp member
      exact stageOption_isSafe stage
  | scheduled scenarios =>
      refine ⟨entriesAreSafe_iff.mpr ?_, trivial⟩
      intro entry member
      obtain ⟨scenario, _, rfl⟩ := List.mem_map.mp member
      exact scenarioOption_isSafe scenario

theorem thresholdOptions_isSafe (thresholds : Thresholds) :
    EntriesAreSafe false (thresholdOptions thresholds) := by
  rw [thresholdOptions]
  split
  · exact ⟨⟨⟨trivial, trivial, trivial⟩, ⟨trivial, trivial⟩, trivial⟩, trivial⟩
  · trivial

theorem optionsSection_isSafe (job : Job) : BodyIsSafe job.optionsSection.value := by
  have entries : EntriesAreSafe false
      ((loadShape job.plan).value.options ++ thresholdOptions job.plan.thresholds) :=
    entriesAreSafe_append.mpr ⟨shapeOptions_isSafe _, thresholdOptions_isSafe _⟩
  exact ⟨⟨by decide, by decide, entries⟩, trivial, trivial⟩

theorem pause_isSafe (job : Job) : BodyIsSafe job.pause := by
  simp only [pause]
  split
  · exact ⟨⟨by decide, trivial, trivial⟩, trivial⟩
  · exact ⟨⟨by decide, ⟨trivial, by decide, .ofRaw (by decide), by decide, trivial⟩, trivial⟩, trivial⟩
  · trivial

theorem withPause_isSafe {pause body : List Stmt} (pauseSafe : BodyIsSafe pause)
    (bodySafe : BodyIsSafe body) : BodyIsSafe (withPause pause body) := by
  rw [withPause]
  split
  · exact bodySafe
  · split
    · exact bodyIsSafe_append.mpr ⟨bodySafe, pauseSafe⟩
    · exact bodyIsSafe_append.mpr ⟨bodySafe, trivial, pauseSafe⟩

theorem casesFrom_isSafe (job : Job) {requests : List Request}
    (plain : ∀ request ∈ requests, ∀ text ∈ request.verbatimTexts, IsVerbatim false text) :
    ∀ index, CasesAreSafe (job.casesFrom index requests).value := by
  induction requests with
  | nil => intro index; trivial
  | cons request rest ih =>
      intro index
      exact ⟨trivial, ⟨requestBody_isSafe (plain request (by simp)) _ _, trivial⟩,
        ih (fun other member => plain other (by simp [member])) (index + 1)⟩

theorem helperName_isVerbatim (index : Nat) : IsVerbatim false (helperName index) :=
  isVerbatim_append.mpr ⟨by decide, isVerbatim_nat index false⟩

theorem entryBody_isSafe {job : Job} (plain : ∀ request ∈ job.plan.requests,
    ∀ text ∈ request.verbatimTexts, IsVerbatim false text) : BodyIsSafe job.entryBody.value := by
  simp only [entryBody]
  split
  · trivial
  · split
    · refine ⟨trivial, bodyIsSafe_iff.mpr ?_⟩
      intro stmt member
      obtain ⟨index, _, rfl⟩ := List.mem_map.mp member
      exact ⟨helperName_isVerbatim index, trivial⟩
    · have range : IsVerbatim false
          ("Math.floor(Math.random() * " ++ toString job.plan.requests.length ++ ")") := by
        rw [isVerbatim_append, isVerbatim_append]
        exact ⟨⟨by decide, isVerbatim_nat _ false⟩, by decide⟩
      exact ⟨trivial, ⟨by decide, by decide, range⟩, ⟨(by decide : IsVerbatim false "apiIndex"),
        casesFrom_isSafe job plain 0⟩, trivial⟩
    · exact blocks_isSafe job _ plain

theorem functions_isSafe {job : Job} (plain : ∀ request ∈ job.plan.requests,
      ∀ text ∈ request.verbatimTexts, IsVerbatim false text)
    (names : ∀ scenario ∈ job.plan.scenarios, IsVerbatim false scenario.name) :
    BodyIsSafe job.functions.value := by
  rw [functions_value]
  split
  · rw [scenarioFunctions_value, bodyIsSafe_iff]
    intro stmt member
    simp only [List.mem_flatMap, List.mem_cons, List.not_mem_nil, or_false] at member
    obtain ⟨scenario, isScenario, rfl | rfl⟩ := member
    · exact ⟨functionName_isVerbatim (names scenario isScenario), blocks_isSafe job _
        fun request selected => plain request (selectedRequests_subset job scenario selected)⟩
    · trivial
  · rw [bodyIsSafe_append]
    constructor
    · split
      · rw [parallelHelpers, helpersFrom_value, bodyIsSafe_iff]
        intro stmt member
        simp only [List.mem_flatMap, List.mem_cons, List.not_mem_nil, or_false] at member
        obtain ⟨⟨request, position⟩, place, rfl | rfl⟩ := member
        · have inside : request ∈ job.plan.requests := (List.mem_zipIdx place).2.2 ▸ List.getElem_mem _
          exact ⟨helperName_isVerbatim position, blocks_isSafe job [request]
            (by simpa using plain request inside)⟩
        · trivial
      · trivial
    · rw [defaultFunction_value]
      exact ⟨⟨by decide, withPause_isSafe (pause_isSafe job) (entryBody_isSafe plain)⟩, trivial⟩

theorem profileVariables_mem {job : Job} {entry : Variable} (member : entry ∈ job.profileVariables) :
    ∃ profile ∈ job.plan.profiles, entry ∈ profile.2 := by
  rw [profileVariables, Plan.profileVariables, Entries.find?] at member
  cases found : job.plan.profiles.lookup job.profile with
  | none => simp [found] at member
  | some entries =>
      rw [found] at member
      obtain ⟨before, after, whole, _⟩ := List.lookup_eq_some_iff.mp found
      exact ⟨(job.profile, entries), by simp [whole], member⟩

/-- What holds of all verbatim texts of a plan holds of those of its requests, of the names of its scenarios, and
of the keys of the variables in use. -/
theorem forall_verbatimTexts {job : Job} {holds : String → Prop}
    (all : ∀ text ∈ job.plan.verbatimTexts, holds text) :
    (∀ request ∈ job.plan.requests, ∀ text ∈ request.verbatimTexts, holds text) ∧
      (∀ scenario ∈ job.plan.scenarios, holds scenario.name) ∧
      ∀ entry ∈ job.profileVariables, holds entry.key := by
  rw [Plan.verbatimTexts, List.forall_mem_append, List.forall_mem_append] at all
  obtain ⟨⟨requests, names⟩, keys⟩ := all
  refine ⟨fun request isRequest text isText => ?_, fun scenario isScenario => ?_, fun entry isEntry => ?_⟩
  · exact requests text (List.mem_flatMap_of_mem isRequest isText)
  · exact names scenario.name (List.mem_map_of_mem isScenario)
  · obtain ⟨profile, isProfile, inProfile⟩ := profileVariables_mem isEntry
    exact keys entry.key (List.mem_flatMap_of_mem isProfile (List.mem_map_of_mem inProfile))

theorem program_isSafe {job : Job} (plain : job.plan.HasPlainCode) : BodyIsSafe job.program.value := by
  obtain ⟨requests, names, keys⟩ := forall_verbatimTexts plain
  simp only [program_value, bodyIsSafe_append]
  exact ⟨⟨⟨⟨⟨⟨header_isSafe job, imports_isSafe job⟩, environment_isSafe keys⟩, baseUrl_isSafe job⟩,
    chainingStore_isSafe job⟩, optionsSection_isSafe job⟩, functions_isSafe requests names⟩

end Job

end LoadScript.Compile
