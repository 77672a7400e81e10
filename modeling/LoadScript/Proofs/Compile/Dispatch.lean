import LoadScript.Proofs.Compile.Functions

/-!
How the functions of a script without scenarios send the requests: one after the other, all of them at once
from a helper function each, or one of them by chance.
-/

namespace LoadScript.Compile

open Script

namespace Job

variable {job : Job}

/-! Pauses. -/

theorem render_pause (value : Expr) :
    render standardUnit 1 [.evaluate (.call "sleep" [value])] =
      "  sleep(" ++ exprText standardUnit 1 value ++ ");\n" := by
  have opening : "  sleep(" = padding standardUnit 1 ++ "sleep(" := rfl
  rw [render_solid (by simp [Stmt.isBlank]), opening]
  simp [stmtLines, exprText, exprTexts, String.append_assoc]

theorem pause_eq_nil_or_singleton (job : Job) :
    (job.pause = [] ∧ pauseTexts job.plan.thinkTime = []) ∨
      ∃ stmt, job.pause = [stmt] ∧ stmt.isBlank = false ∧
        pauseTexts job.plan.thinkTime = [render standardUnit 1 [stmt]] := by
  cases mode : job.plan.thinkTime.mode with
  | fixed =>
      refine .inr ⟨_, by rw [pause, mode], rfl, ?_⟩
      rw [pauseTexts, mode, render_pause, exprText]
  | random =>
      refine .inr ⟨_, by rw [pause, mode], rfl, ?_⟩
      have middle : " + Math.random() * " = " " ++ "+" ++ " " ++ "Math.random()" ++ " " ++ "*" ++ " " := rfl
      rw [pauseTexts, mode, render_pause, middle]
      simp only [exprText, String.append_assoc]
  | perRequest => exact .inl ⟨by rw [pause, mode], by rw [pauseTexts, mode]⟩

theorem render_withPause_closed {body : List Stmt} (closed : IsClosed body) :
    render standardUnit 1 (withPause job.pause body) =
      paragraphs (render standardUnit 1 body :: pauseTexts job.plan.thinkTime) := by
  obtain ⟨start, last, rfl, solid⟩ := closed
  rcases pause_eq_nil_or_singleton job with ⟨noPause, noText⟩ | ⟨stmt, pauses, pauseSolid, pauseText⟩
  · rw [noPause, noText]
    simp [withPause, paragraphs]
  · have behind : withPause [stmt] (start ++ [last]) = (start ++ [last]) ++ .blank :: [stmt] := by
      simp [withPause, solid]
    rw [pauses, pauseText, behind,
      render_blank_between ⟨start, last, rfl, solid⟩ (isClosed_singleton pauseSolid), paragraphs]
    simp

theorem render_withPause_spaced {stmts : List Stmt} (nonempty : stmts ≠ [])
    (solid : ∀ stmt ∈ stmts, stmt.isBlank = false) :
    render standardUnit 1 (withPause job.pause (stmts.flatMap fun stmt => [stmt, .blank])) =
      paragraphs ((stmts.map fun stmt => render standardUnit 1 [stmt]) ++
        pauseTexts job.plan.thinkTime) := by
  rcases pause_eq_nil_or_singleton job with ⟨noPause, noText⟩ | ⟨stmt, pauses, pauseSolid, pauseText⟩
  · rw [noPause, noText, List.append_nil]
    exact render_spaced stmts solid
  · have behind : withPause [stmt] (stmts.flatMap fun stmt => [stmt, .blank]) =
        (stmts.flatMap fun stmt => [stmt, .blank]) ++ [stmt] := by
      obtain ⟨start, last, rfl⟩ := (List.eq_nil_or_concat stmts).resolve_left nonempty
      simp [withPause, Stmt.isBlank]
    have closed := closed_singletons solid pauseSolid
    rw [pauses, pauseText, behind, spaced_append, render_intercalate closed, List.map_append, List.map_map]
    rfl

/-! Requests. -/

theorem requestTexts_eq (job : Job) (level : Int) :
    job.requestTexts level =
      job.plan.requests.map fun request => render standardUnit level [(job.block request).value] := by
  apply List.ext_getElem
  · simp [requestTexts]
  · intro index _ _
    simp only [requestTexts, List.getElem_mapIdx, List.getElem_map]
    rfl

theorem blocks_spaced (job : Job) (requests : List Request) :
    (job.blocks requests).value =
      (requests.map fun request => (job.block request).value).flatMap fun stmt => [stmt, .blank] := by
  rw [blocks_value, List.flatMap_map]
  rfl

theorem blocks_solid (job : Job) (requests : List Request) :
    ∀ stmt ∈ requests.map fun request => (job.block request).value, stmt.isBlank = false := by
  intro stmt member
  obtain ⟨request, _, rfl⟩ := List.mem_map.mp member
  rfl

theorem render_blocks (job : Job) (level : Int) (requests : List Request) :
    render standardUnit level (job.blocks requests).value =
      paragraphs (requests.map fun request => render standardUnit level [(job.block request).value]) := by
  rw [blocks_spaced, render_spaced _ (blocks_solid job requests), List.map_map]
  rfl

theorem render_calls (indices : List Nat) :
    (indices.map fun index => Stmt.evaluate (.call (helperName index) [])).map
        (fun stmt => endedLines (stmtLines standardUnit 1 stmt)) =
      indices.map fun index => "  api" ++ toString index ++ "();\n" := by
  have opening : "  api" = padding standardUnit 1 ++ "api" := rfl
  have closing : "();\n" = "(" ++ "" ++ ")" ++ ";" ++ "\n" := rfl
  rw [List.map_map]
  apply List.map_congr_left
  intro index _
  rw [opening, closing]
  simp only [Function.comp_apply, stmtLines, exprText, exprTexts, helperName, endedLines_cons,
    endedLines_nil, String.append_assoc, String.intercalate_nil, String.append_empty]

def callStmtsOf (count : Nat) : List Stmt :=
  .comment "Parallel execution - all APIs called together" ::
    (List.range count).map fun index => .evaluate (.call (helperName index) [])

theorem callStmtsOf_solid (count : Nat) : ∀ stmt ∈ callStmtsOf count, stmt.isBlank = false := by
  intro stmt member
  rcases List.mem_cons.mp member with rfl | call
  · rfl
  · obtain ⟨index, _, rfl⟩ := List.mem_map.mp call
    rfl

theorem render_callStmtsOf (count : Nat) :
    render standardUnit 1 (callStmtsOf count) = callsText count := by
  have margin : padding standardUnit 1 = "  " := rfl
  have remark : commentLines "  " "Parallel execution - all APIs called together" =
      ["  // Parallel execution - all APIs called together"] := by decide
  have line : "  // Parallel execution - all APIs called together\n" =
      "  // Parallel execution - all APIs called together" ++ "\n" := by decide
  rw [render_solid (callStmtsOf_solid count), callStmtsOf, List.map_cons, String.join_cons, stmtLines,
    margin, remark, render_calls, endedLines_cons, endedLines_nil, String.append_empty]
  unfold callsText
  rw [line]

theorem caseLines_casesFrom (job : Job) (requests : List Request) : ∀ index,
    endedLines (caseLines standardUnit 2 (job.casesFrom index requests).value) =
      String.join ((requests.map fun request =>
        render standardUnit 3 [(job.block request).value]).mapIdx
          fun position text => caseText (index + position) text) := by
  induction requests with
  | nil => intro index; rfl
  | cons request rest ih =>
      intro index
      have opening : "    case " = padding standardUnit 2 ++ "case " := rfl
      have closing : "      break;\n" = padding standardUnit 2 ++ standardUnit ++ "break;" ++ "\n" := rfl
      have number : exprText standardUnit 2 (.number (.whole index)) = toString index := by
        rw [exprText]
        rfl
      have cases : (job.casesFrom index (request :: rest)).value =
          .mk (.number (.whole index)) [(job.block request).value] ::
            (job.casesFrom (index + 1) rest).value := rfl
      have others := ih (index + 1)
      simp only [Nat.add_right_comm index 1] at others
      rw [cases, caseLines, endedLines_append, others, List.map_cons, List.mapIdx_cons, String.join_cons,
        caseText, opening, closing, number]
      have level : (2 + 1 : Int) = 3 := rfl
      have feed : ":\n" = ":" ++ "\n" := rfl
      simp only [endedLines_cons, endedLines_append, endedLines_nil, ← render_eq, level, feed,
        Nat.add_zero, Nat.add_assoc, String.append_assoc, String.append_empty]

def switchStmts (job : Job) : List Stmt := [
  .comment "Randomized execution - pick one API per iteration",
  .constant "apiIndex"
    (.raw ("Math.floor(Math.random() * " ++ toString job.plan.requests.length ++ ")")),
  .switch (.reference "apiIndex") (job.casesFrom 0 job.plan.requests).value]

theorem switchStmts_solid (job : Job) : ∀ stmt ∈ job.switchStmts, stmt.isBlank = false := by
  simp [switchStmts, Stmt.isBlank, Stmt.constant]

theorem render_switchStmts (job : Job) :
    render standardUnit 1 job.switchStmts = switchText (job.requestTexts 3) := by
  have margin : padding standardUnit 1 = "  " := rfl
  have remark : commentLines "  " "Randomized execution - pick one API per iteration" =
      ["  // Randomized execution - pick one API per iteration"] := by decide
  have cases : endedLines (caseLines standardUnit 2 (job.casesFrom 0 job.plan.requests).value) =
      String.join ((job.requestTexts 3).mapIdx caseText) := by
    have all := caseLines_casesFrom job job.plan.requests 0
    simp only [Nat.zero_add] at all
    rw [all, requestTexts_eq]
  have size : (job.requestTexts 3).length = job.plan.requests.length := by simp [requestTexts]
  rw [render_solid job.switchStmts_solid, switchStmts]
  unfold switchText
  rw [size, ← cases]
  have level : (1 + 1 : Int) = 2 := rfl
  simp only [List.map_cons, List.map_nil, String.join_cons, String.join_nil, stmtLines, margin, remark,
    Stmt.constant, exprText, exportText, endedLines_cons, endedLines_append, endedLines_nil, level,
    Bool.false_eq_true, if_false, String.append_assoc, String.append_empty]
  simp [← String.toList_inj]

/-! The functions. -/

theorem entry_text (job : Job) {parts : List String}
    (rendered : render standardUnit 1 (withPause job.pause job.entryBody.value) = paragraphs parts) :
    job.entry.text = entryText parts := by
  have head : functionHead "default" true true = "export default function() " ++ openBrace := rfl
  unfold Function.text entryText
  rw [entry, rendered, head]

theorem helpers_text (job : Job) :
    (job.plan.requests.mapIdx job.helper).map Function.text =
      (job.requestTexts 1).mapIdx helperText := by
  apply List.ext_getElem
  · simp [requestTexts]
  · intro index _ _
    have body (request : Request) : render standardUnit 1 (job.blocks [request]).value =
        render standardUnit 1 [(job.block request).value] := by
      rw [render_blocks]
      simp [paragraphs]
    simp only [List.getElem_map, List.getElem_mapIdx, requestTexts_eq]
    unfold Function.text helperText
    rw [helper, body]
    simp [functionHead, exportText, helperName, ← String.toList_inj]

theorem helperName_injective : Function.Injective helperName := by
  intro index other same
  have digits : Nat.toDigits 10 index = Nat.toDigits 10 other := by
    have texts : toString index = toString other := by simpa [helperName] using same
    exact String.ofList_injective texts
  rw [← Double.digitsValue_toDigits index, digits, Double.digitsValue_toDigits]

/-! The default function in each mode. -/

theorem entry_sequential (mode : job.plan.executionMode = .sequential) (requested : job.plan.requests ≠ []) :
    job.entry.text = entryText (job.requestTexts 1 ++ pauseTexts job.plan.thinkTime) := by
  have body : job.entryBody.value = (job.blocks job.plan.requests).value := by
    simp [entryBody, requested, mode]
  apply entry_text
  rw [body, blocks_spaced, render_withPause_spaced (by simpa using requested) (blocks_solid job _),
    requestTexts_eq, List.map_map]
  rfl

theorem entry_parallel (mode : job.plan.executionMode = .parallel) (requested : job.plan.requests ≠ []) :
    job.entry.text =
      entryText (callsText job.plan.requests.length :: pauseTexts job.plan.thinkTime) := by
  have body : job.entryBody.value = callStmtsOf job.plan.requests.length := by
    simp [entryBody, requested, mode, callStmtsOf]
  have closed : IsClosed (callStmtsOf job.plan.requests.length) :=
    isClosed_of_solid (List.cons_ne_nil _ _) (callStmtsOf_solid _)
  apply entry_text
  rw [body, render_withPause_closed closed, render_callStmtsOf]

theorem entry_random (mode : job.plan.executionMode = .random) (requested : job.plan.requests ≠ []) :
    job.entry.text =
      entryText (switchText (job.requestTexts 3) :: pauseTexts job.plan.thinkTime) := by
  have body : job.entryBody.value = job.switchStmts := by simp [entryBody, requested, mode, switchStmts]
  have closed : IsClosed job.switchStmts :=
    isClosed_of_solid (List.cons_ne_nil _ _) job.switchStmts_solid
  apply entry_text
  rw [body, render_withPause_closed closed, render_switchStmts]

theorem names_parallel (job : Job) :
    (job.plan.requests.mapIdx job.helper ++ [job.entry]).map Function.name =
      (List.range job.plan.requests.length).map helperName ++ ["default"] := by
  have helperNames : (job.plan.requests.mapIdx job.helper).map Function.name =
      (List.range job.plan.requests.length).map helperName := by
    apply List.ext_getElem
    · simp
    · intro index _ _
      simp [helper]
  rw [List.map_append, helperNames]
  rfl

theorem nodup_helpers (count : Nat) : ((List.range count).map helperName).Nodup :=
  List.pairwise_map.mpr (List.Pairwise.imp (fun other same => other (helperName_injective same))
    List.nodup_range)

theorem names_nodup (count : Nat) : ((List.range count).map helperName ++ ["default"]).Nodup := by
  rw [List.nodup_append]
  refine ⟨nodup_helpers count, by simp, ?_⟩
  intro name helper other default same
  obtain ⟨index, _, rfl⟩ := List.mem_map.mp helper
  rw [List.mem_singleton.mp default] at same
  have characters := congrArg String.toList same
  simp [helperName] at characters

/-- A script without scenarios sends all its requests, each with the text that it has when it is emitted by
itself: one after the other in the default function, each in a helper function that the default function
calls, or each in a case of a switch. -/
theorem script_sends_requests (job : Job) (single : job.plan.usesScenarios = false)
    (requested : job.plan.requests ≠ []) :
    let opening := render standardUnit 0 job.preamble
    let pauses := pauseTexts job.plan.thinkTime
    let count := job.plan.requests.length
    let names := (declaredFunctions job.program.value).map Function.name
    match job.plan.executionMode with
    | .sequential =>
        job.text.value = paragraphs [opening, entryText (job.requestTexts 1 ++ pauses)] ∧
          names = ["default"]
    | .parallel =>
        job.text.value = paragraphs (opening :: (job.requestTexts 1).mapIdx helperText ++
          [entryText (callsText count :: pauses)]) ∧
          names = (List.range count).map helperName ++ ["default"] ∧ names.Nodup
    | .random =>
        job.text.value =
          paragraphs [opening, entryText (switchText (job.requestTexts 3) :: pauses)] ∧
          names = ["default"] := by
  have listed : declaredFunctions job.program.value = job.helpers ++ [job.entry] := by
    rw [declaredFunctions_program, single]
    rfl
  simp only [text_eq_paragraphs, listed]
  cases mode : job.plan.executionMode with
  | sequential =>
      have alone : job.helpers = [] := by simp [helpers, mode]
      simp only [alone, List.nil_append, List.map_singleton, entry_sequential mode requested]
      exact ⟨trivial, rfl⟩
  | parallel =>
      have helped : job.helpers = job.plan.requests.mapIdx job.helper := by simp [helpers, mode]
      simp only [helped, names_parallel]
      refine ⟨?_, trivial, names_nodup _⟩
      rw [List.map_append, helpers_text, List.map_singleton, entry_parallel mode requested]
      rfl
  | random =>
      have alone : job.helpers = [] := by simp [helpers, mode]
      simp only [alone, List.nil_append, List.map_singleton, entry_random mode requested]
      exact ⟨trivial, rfl⟩

def twoAtOnce : Job := {
  plan := {
    executionMode := .parallel
    requests := [
      { name := "List", url := "/items" },
      { name := "Add", method := .post, url := "/items", body := "first\nsecond", thinkTime := .ofNat 2 }] }
  generatedAt := .ofEpoch 0 }

theorem script_sends_requests_twoAtOnce :
    twoAtOnce.plan.usesScenarios = false ∧ twoAtOnce.plan.requests ≠ [] ∧
      ∃ opening first second, twoAtOnce.requestTexts 1 = [first, second] ∧
        twoAtOnce.text.value = paragraphs [
          opening, helperText 0 first, helperText 1 second,
          entryText [callsText 2, "  sleep(1);\n"]] ∧
        (declaredFunctions twoAtOnce.program.value).map Function.name = ["api0", "api1", "default"] := by
  have single : twoAtOnce.plan.usesScenarios = false := rfl
  have requested : twoAtOnce.plan.requests ≠ [] := by simp [twoAtOnce]
  have pauses : pauseTexts twoAtOnce.plan.thinkTime = ["  sleep(1);\n"] := by decide +kernel
  have sent := script_sends_requests twoAtOnce single requested
  refine ⟨single, requested, render standardUnit 0 twoAtOnce.preamble, _, _, rfl, ?_, sent.2.1⟩
  rw [← pauses]
  exact sent.1

end Job

end LoadScript.Compile
