import LoadScript.Proofs.CommandLine.Directory
import LoadScript.Proofs.CommandLine.Runs
import LoadScript.Proofs.CommandLine.Standard
import LoadScript.Proofs.Json.Characters
import LoadScript.Proofs.Plan.Growth

/-!
Repeated imports accumulate: the file goes on to hold the plan that it stood for, with one request more for
each command that could be imported.
-/

namespace LoadScript.CommandLine

variable {platform : Platform} {file : String}

def Directory.planAt? (directory : Directory) (reader : Json.Reader) (file : String) : Option Plan :=
  match directory.target (.ofText file) with
  | .file contents => (Plan.load reader (Text.unifyLineEnds contents)).toOption
  | .folder => none
  | .nothing | .unreachable _ => some {}

def Directory.isWritable (directory : Directory) (file : String) : Bool :=
  (directory.target (.ofText file)).isWritable

structure ImportStep (platform : Platform) (file : String) where
  arguments : List String
  input : String := ""
  environment : Entries String := []
  now : Moment
  curl : String
  name : Option String := none
  addsCheck : Bool := true
  read : platform.parse arguments =
    some (.importCurl { command := some curl, plan := some file, name, addsCheck })

namespace ImportStep

def invocation (step : ImportStep platform file) (directory : Directory) : Invocation := {
  platform
  arguments := step.arguments
  input := step.input
  environment := step.environment
  directory
  now := step.now }

def after (step : ImportStep platform file) (directory : Directory) : Directory :=
  (step.invocation directory).run.session.directory

def labelled (step : ImportStep platform file) (request : Request) : Request := {
  request with
  name :=
    match step.name with
    | some name => if name = "" then request.name else name
    | none => request.name
  checks :=
    request.checks ++ if step.addsCheck then [⟨"status is 200", "r.status === 200"⟩] else [] }

def added? (step : ImportStep platform file) : Option Request :=
  match Curl.importRequest step.curl with
  | .ok imported => some (step.labelled imported.value)
  | .error _ => none

def command (step : ImportStep platform file) : ImportCommand := {
  command := some step.curl
  plan := some file
  name := step.name
  addsCheck := step.addsCheck }

theorem relabelled_command (step : ImportStep platform file) (request : Request) :
    relabelled step.command request = step.labelled request := by
  have checks : (if step.addsCheck then request.checks ++ [Sample.statusCheck] else request.checks) =
      request.checks ++ if step.addsCheck then [⟨"status is 200", "r.status === 200"⟩] else [] := by
    cases step.addsCheck
    · exact (List.append_nil _).symm
    · rfl
  rw [labelled, ← checks]
  rfl

theorem invocation_command? (step : ImportStep platform file) (directory : Directory) :
    (step.invocation directory).command? = some (.importCurl step.command) := by
  rw [Invocation.command?, invocation, step.read]
  rfl

end ImportStep

/-! One step. -/

section Step

variable {session : Session} {plan : Plan}

/-- The plan to extend is the one that the path stands for. It is not found only where it cannot be written. -/
theorem run_planToExtend (stands : session.directory.planAt? platform.reader file = some plan) :
    (platform.planToExtend (.ofText file)).run session = (.ok plan, session) ∨
      session.directory.isWritable file = false ∧
        ∃ stop, (platform.planToExtend (.ofText file)).run session = (.error stop, session) := by
  have exist := Run.run_pathExists (.ofText file) session
  rw [Platform.planToExtend]
  rw [Directory.planAt?] at stands
  cases target : session.directory.target (.ofText file) with
  | file contents =>
      rw [target] at exist stands
      have held : session.directory.read (.ofText file) = .ok contents := by
        rw [Directory.read, target]
      exact .inl (by rw [Run.run_bind_ok _ exist, if_pos rfl,
        Platform.run_loadPlan held (Outcome.eq_ok_of_toOption stands)])
  | folder => rw [target] at stands; cases stands
  | nothing =>
      rw [target] at exist stands
      cases stands
      exact .inl (by rw [Run.run_bind_ok _ exist]; rfl)
  | unreachable error =>
      rw [target] at exist stands
      cases stands
      have noFile : session.directory.isWritable file = false := by
        rw [Directory.isWritable, target]
        rfl
      cases error with
      | nameTooLong => exact .inr ⟨noFile, _, Run.run_bind_error _ exist⟩
      | notFound => exact .inl (by rw [Run.run_bind_ok _ exist]; rfl)
      | isFolder => exact .inl (by rw [Run.run_bind_ok _ exist]; rfl)
      | notFolder => exact .inl (by rw [Run.run_bind_ok _ exist]; rfl)

theorem encodes_save (conforms : platform.Conforms) (plan : Plan) : platform.encodes (plan.save 2) = true :=
  conforms.encodes_sevenBit _ (Json.sevenBit_render rfl plan.toJson)

variable (conforms : platform.Conforms)

include conforms

theorem importCurl_directory (step : ImportStep platform file) (session : Session)
    (stands : session.directory.planAt? platform.reader file = some plan) :
    (((step.invocation session.directory).importCurl step.command).run session).2.directory =
      match step.added? with
      | none => session.directory
      | some request =>
          if session.directory.isWritable file then
            session.directory.holding (FilePath.ofText file).resolve ((plan.extended request).save 2)
          else session.directory := by
  have same : (step.invocation session.directory).platform = platform := rfl
  have curl : (step.invocation session.directory).readCurl step.command = pure step.curl := rfl
  have path : step.command.plan.map FilePath.ofText = some (.ofText file) := rfl
  rw [Invocation.importCurl, curl, Run.run_bind_ok _ (Run.run_pure step.curl session), ImportStep.added?,
    path, same]
  cases Curl.importRequest step.curl with
  | error error =>
      obtain ⟨stop, after, failed, kept, -⟩ := @Platform.run_fail Request platform error.message session
      simp only []
      rw [Run.run_bind_error _ failed, kept]
  | ok imported =>
      simp only [pure_bind, ImportStep.relabelled_command]
      rcases run_planToExtend stands with found | ⟨noFile, stop, stopped⟩
      · rw [Run.run_bind_ok _ found]
        cases writable : session.directory.isWritable file with
        | true =>
            have written := Platform.run_writeText
              (encodes_save conforms (plan.extended (step.labelled imported.value)))
              (Directory.write_eq_ok writable _)
            rw [Plan.extended] at written
            rw [Run.run_bind_ok _ written, Platform.say_directory, if_pos rfl]
            rfl
        | false =>
            obtain ⟨error, failed⟩ := Directory.write_eq_error writable
            rw [Run.run_bind_error _ (Platform.run_writeText_error failed), if_neg Bool.false_ne_true]
      · rw [noFile, if_neg Bool.false_ne_true, Run.run_bind_error _ stopped]

theorem ImportStep.after_eq (step : ImportStep platform file) {directory : Directory}
    (stands : directory.planAt? platform.reader file = some plan) :
    step.after directory =
      match step.added? with
      | none => directory
      | some request =>
          if directory.isWritable file then
            directory.holding (FilePath.ofText file).resolve ((plan.extended request).save 2)
          else directory := by
  rw [after, Invocation.session_run (step.invocation_command? directory)]
  exact importCurl_directory conforms step { directory } stands

end Step

/-! The plans that the file holds. -/

theorem Directory.planAt?_isLoaded {directory : Directory} {plan : Plan}
    (stands : directory.planAt? platform.reader file = some plan) : plan.IsLoaded := by
  rw [planAt?] at stands
  split at stands
  · exact Plan.isLoaded_of_load (Outcome.eq_ok_of_toOption stands)
  · cases stands
  · cases stands
    exact Plan.default_isLoaded
  · cases stands
    exact Plan.default_isLoaded

theorem thinkTime_of_importRequest {curl : String} {imported : Logged Request}
    (accepted : Curl.importRequest curl = .ok imported) : imported.value.thinkTime = .zero := by
  rw [Curl.importRequest] at accepted
  split at accepted
  · cases accepted
  · split at accepted
    · cases accepted
      rfl
    · cases accepted

theorem ImportStep.added_isCanonical {step : ImportStep platform file} {request : Request}
    (added : step.added? = some request) : request.thinkTime.IsCanonical := by
  rw [added?] at added
  split at added
  · next imported accepted =>
      cases added
      rw [labelled, thinkTime_of_importRequest accepted]
      exact Double.isCanonical_zero false
  · cases added

section Held

variable {directory : Directory} (writable : directory.isWritable file = true)

include writable

theorem Directory.hasFile_holding (contents : String) :
    (directory.holding (FilePath.ofText file).resolve contents).hasFile file = true := by
  rw [hasFile, target_holding (FilePath.ofText_isPlain file) writable]

theorem Directory.isWritable_holding (contents : String) :
    (directory.holding (FilePath.ofText file).resolve contents).isWritable file = true := by
  rw [isWritable, target_holding (FilePath.ofText_isPlain file) writable]
  rfl

theorem Directory.planAt?_holding {plan : Plan} (loaded : plan.IsLoaded) :
    (directory.holding (FilePath.ofText file).resolve (plan.save 2)).planAt? platform.reader file =
      some plan.saved := by
  rw [planAt?, target_holding (FilePath.ofText_isPlain file) writable]
  simp only [loaded.load_unified_save]
  rfl

end Held

section Runs

variable {step : ImportStep platform file} {start directory : Directory} {first plan : Plan}

def importAll (start : Directory) (steps : List (ImportStep platform file)) : Directory :=
  steps.foldl (fun directory step => step.after directory) start

theorem importAll_append (start : Directory) (steps : List (ImportStep platform file))
    (step : ImportStep platform file) :
    importAll start (steps ++ [step]) = step.after (importAll start steps) := by
  rw [importAll, List.foldl_append]
  rfl

variable (conforms : platform.Conforms)

include conforms

theorem ImportStep.after_eq_self (stands : directory.planAt? platform.reader file = some plan)
    (idle : step.added? = none ∨ directory.isWritable file = false) : step.after directory = directory := by
  rw [step.after_eq conforms stands]
  split
  · rfl
  · next added =>
      rw [added] at idle
      rw [if_neg (by simpa using idle)]

/-- A step that adds a request leaves a file with this request behind, and goes on from there. -/
theorem ImportStep.after_gains (stands : directory.planAt? platform.reader file = some plan)
    (writable : directory.isWritable file = true) {request : Request}
    (added : step.added? = some request) :
    ∃ next, (step.after directory).planAt? platform.reader file = some next ∧ plan.Gains next [request] ∧
      (step.after directory).hasFile file = true ∧ (step.after directory).isWritable file = true := by
  rw [step.after_eq conforms stands, added]
  simp only [writable, if_true]
  have loaded := (Directory.planAt?_isLoaded stands).extended (added_isCanonical added)
  exact ⟨_, Directory.planAt?_holding writable loaded, plan.gains_extended_saved request,
    Directory.hasFile_holding writable _, Directory.isWritable_holding writable _⟩

/-- After any imports the file stands for the plan from the start with all requests that were added. -/
theorem importAll_gains (stands : start.planAt? platform.reader file = some first)
    (writable : start.isWritable file = true) (steps : List (ImportStep platform file)) :
    ∃ last, (importAll start steps).planAt? platform.reader file = some last ∧
      first.Gains last (steps.filterMap ImportStep.added?) ∧
      (importAll start steps).isWritable file = true := by
  induction steps generalizing start first with
  | nil => exact ⟨first, stands, .refl first, writable⟩
  | cons step steps ih =>
      rw [importAll, List.foldl_cons]
      cases added : step.added? with
      | none =>
          rw [step.after_eq_self conforms stands (.inl added), List.filterMap_cons_none added]
          exact ih stands writable
      | some request =>
          obtain ⟨next, nextStands, gains, -, still⟩ := step.after_gains conforms stands writable added
          obtain ⟨last, lastStands, more, writableAfter⟩ := ih nextStands still
          rw [List.filterMap_cons_some added]
          exact ⟨last, lastStands, gains.trans more, writableAfter⟩

theorem importAll_eq_self (stands : start.planAt? platform.reader file = some first)
    (unwritable : start.isWritable file = false) (steps : List (ImportStep platform file)) :
    importAll start steps = start := by
  induction steps with
  | nil => rfl
  | cons step steps ih => rwa [importAll, List.foldl_cons, step.after_eq_self conforms stands (.inr unwritable)]

/-- Imports accumulate. At any time the file stands for a plan. A command that cannot be imported changes
nothing. Any other one adds its request to the plan and changes nothing else in it, unless no file can be
written at the path: then nothing changes at all. -/
theorem imports_accumulate (stands : start.planAt? platform.reader file = some first)
    (steps : List (ImportStep platform file)) (step : ImportStep platform file) :
    let before := importAll start steps
    let after := importAll start (steps ++ [step])
    ∃ plan next, before.planAt? platform.reader file = some plan ∧
      after.planAt? platform.reader file = some next ∧
      match Curl.importRequest step.curl with
      | .error _ => after = before
      | .ok imported =>
          if start.isWritable file then
            after.hasFile file = true ∧ plan.Gains next [step.labelled imported.value]
          else after = before := by
  intro before after
  have afterStep : after = step.after before := importAll_append start steps step
  cases writable : start.isWritable file with
  | false =>
      have beforeStart : before = start := importAll_eq_self conforms stands writable steps
      have same : after = before := by
        rw [afterStep, beforeStart, step.after_eq_self conforms stands (.inr writable)]
      refine ⟨first, first, beforeStart ▸ stands, by rw [same, beforeStart, stands], ?_⟩
      split
      · exact same
      · exact same
  | true =>
      obtain ⟨plan, planStands, -, still⟩ := importAll_gains conforms stands writable steps
      cases imported : Curl.importRequest step.curl with
      | error error =>
          have idle : step.added? = none := by rw [ImportStep.added?, imported]
          have same : after = before := by rw [afterStep, step.after_eq_self conforms planStands (.inl idle)]
          exact ⟨plan, plan, planStands, by rw [same, planStands], same⟩
      | ok request =>
          have added : step.added? = some (step.labelled request.value) := by
            rw [ImportStep.added?, imported]
          obtain ⟨next, nextStands, gains, file, -⟩ := step.after_gains conforms planStands still added
          rw [afterStep]
          exact ⟨plan, next, planStands, nextStands, file, gains⟩

end Runs

/-! Imports into a file that is missing, and into a folder that is missing. -/

def importOther : ImportStep .standard "plan.json" where
  arguments := ["import-curl", "wget http://h/", "--config", "plan.json"]
  now := .ofEpoch 0
  curl := "wget http://h/"
  read := by decide

def importHome : ImportStep .standard "plan.json" where
  arguments := ["import-curl", "curl http://h/", "-c", "plan.json", "--name", "Home", "--no-check"]
  now := .ofEpoch 0
  curl := "curl http://h/"
  name := some "Home"
  addsCheck := false
  read := by decide

theorem imports_accumulate_home :
    let before := importAll {} [importHome, importOther]
    let after := importAll {} ([importHome, importOther] ++ [importHome])
    ({} : Directory).planAt? .standard "plan.json" = some {} ∧
      ∃ plan next, before.planAt? .standard "plan.json" = some plan ∧
        after.planAt? .standard "plan.json" = some next ∧ after.hasFile "plan.json" = true ∧
        plan.Gains next [{ name := "Home", url := "http://h/" }] := by
  have missing : ({} : Directory).planAt? .standard "plan.json" = some {} := by rfl
  have writable : ({} : Directory).isWritable "plan.json" = true := by decide
  have accepted : (Curl.importRequest importHome.curl).map (importHome.labelled ·.value) =
      .ok { name := "Home", url := "http://h/" } := Outcome.eq_ok_of_toOption (by decide)
  obtain ⟨plan, next, before, after, step⟩ :=
    imports_accumulate Platform.standard_conforms missing [importHome, importOther] importHome
  cases imported : Curl.importRequest importHome.curl with
  | error error =>
      rw [imported] at accepted
      cases accepted
  | ok request =>
      rw [imported] at accepted step
      have labelled : importHome.labelled request.value = { name := "Home", url := "http://h/" } :=
        Except.ok.inj accepted
      simp only [writable, if_true, labelled] at step
      exact ⟨missing, plan, next, before, after, step⟩

def importIntoFolder : ImportStep .standard "plans/plan.json" where
  arguments := ["import-curl", "curl http://h/", "--config", "plans/plan.json"]
  now := .ofEpoch 0
  curl := "curl http://h/"
  read := by decide

/-- Without the folder of the file the request is lost. -/
theorem import_without_folder :
    let after := importIntoFolder.after {}
    ({} : Directory).planAt? .standard "plans/plan.json" = some {} ∧ after.hasFile "plans/plan.json" = false ∧
      ∃ imported, Curl.importRequest importIntoFolder.curl = .ok imported ∧
        ∀ next, after.planAt? .standard "plans/plan.json" = some next →
          ¬ Plan.Gains {} next [importIntoFolder.labelled imported.value] := by
  have missing : ({} : Directory).planAt? .standard "plans/plan.json" = some {} := by rfl
  have unwritable : ({} : Directory).isWritable "plans/plan.json" = false := by decide
  have accepted : (Curl.importRequest importIntoFolder.curl).toOption.isSome = true := by decide
  intro after
  have unchanged : after = {} := ImportStep.after_eq_self Platform.standard_conforms missing (.inr unwritable)
  rw [unchanged]
  refine ⟨missing, by decide, ?_⟩
  cases imported : Curl.importRequest importIntoFolder.curl with
  | error error =>
      rw [imported] at accepted
      cases accepted
  | ok request =>
      refine ⟨request, rfl, fun next stands gains => ?_⟩
      cases missing.symm.trans stands
      cases gains.requests

end LoadScript.CommandLine
