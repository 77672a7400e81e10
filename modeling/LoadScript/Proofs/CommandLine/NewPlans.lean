import LoadScript.Proofs.CommandLine.Failures
import LoadScript.Proofs.Plan.RoundTrip

/-!
New plans. `init` adds one file to the working directory and changes no other, or it fails and changes nothing.
-/

namespace LoadScript

theorem Plan.IsLoaded.rename {plan : Plan} (loaded : plan.IsLoaded) (name : String) :
    Plan.IsLoaded { plan with name } :=
  ⟨loaded.baseUrl, loaded.users, loaded.targetUsers, loaded.stages, loaded.scenarios, loaded.profiles,
    loaded.profileVariables, loaded.thinkTime, loaded.requests, loaded.thresholds⟩

namespace Sample

theorem profile_areLoaded (host key : String) : Variable.AreLoaded (profile host key) where
  trimmed := by
    simp only [profile, List.forall_mem_cons]
    decide
  nonempty := by
    simp only [profile, List.forall_mem_cons]
    decide
  apart := by
    simp only [profile, List.map_cons, List.map_nil]
    decide

theorem plan_isLoaded : Sample.plan.IsLoaded where
  baseUrl := by decide
  users := LongNumber.fits_of_lt (by decide)
  targetUsers := LongNumber.fits_of_lt (by decide)
  stages := List.forall_mem_nil _
  scenarios := List.forall_mem_nil _
  profiles := by decide
  profileVariables := by
    intro profile member
    simp only [plan, List.mem_cons, List.not_mem_nil, or_false] at member
    rcases member with rfl | rfl | rfl
    · exact profile_areLoaded _ _
    · exact profile_areLoaded _ _
    · exact profile_areLoaded _ _
  thinkTime := by
    rw [plan]
    constructor
    · dsimp only
      exact Double.ofNat_isCanonical 1
    · dsimp only
      exact Double.ofNat_isCanonical 1
    · dsimp only
      exact Double.ofNat_isCanonical 3
  requests := by
    intro request member
    simp only [plan, List.mem_cons, List.not_mem_nil, or_false] at member
    rcases member with rfl | rfl | rfl
    · exact Double.isCanonical_zero false
    · exact Double.isCanonical_zero false
    · exact Double.isCanonical_zero false
  thresholds := Plan.default_isLoaded.thresholds

def named (name : String) : Plan := { plan with name }

/-- The requests of the sample have no tokens that they do not send. -/
theorem load_save_named (reader : Json.Reader) (name : String) :
    Plan.load reader ((named name).save 2) = .ok (named name) := by
  have sent : ∀ request ∈ Sample.plan.requests, request.authKind ≠ .bearer → request.bearerToken = "" := by
    decide
  rw [named, Plan.load_save reader (plan_isLoaded.rename name), Except.ok.injEq, Plan.saved_eq_iff]
  exact sent

end Sample

namespace CommandLine

variable {platform : Platform} {session after : Session} {name : String}

def Stop.code : Stop → Nat
  | .exit code => code
  | .crash _ => 1

theorem Invocation.exit_eq_code {invocation : Invocation} {command : Command} {stop : Stop}
    (named : invocation.command? = some command)
    (stopped : (invocation.perform command).run { directory := invocation.directory } = (.error stop, after)) :
    invocation.run.exit = stop.code ∧ invocation.run.session = after := by
  rw [run]
  simp only [named, stopped]
  cases stop with
  | exit code => exact ⟨rfl, rfl⟩
  | crash crash => exact ⟨rfl, rfl⟩

theorem Platform.run_say_of_shown {message : String} (isShown : ∃ text, platform.shown message = .ok text)
    (session : Session) :
    ∃ after, (platform.say message).run session = (.ok (), after) ∧ after.directory = session.directory := by
  obtain ⟨text, shown⟩ := isShown
  rw [say, shown]
  exact ⟨_, rfl, rfl⟩

/-! The three ways in which `init` ends. -/

section

variable {directory : Directory}

theorem run_init_of_taken
    (found : (Run.pathExists (.ofText (Command.planFileName name))).run { directory } =
      (.ok true, { directory })) :
    ∃ stop after, (platform.init name).run { directory } = (.error stop, after) ∧ after.directory = directory ∧
      stop.code = 1 := by
  rw [Platform.init, Run.run_bind_ok _ found, if_pos rfl]
  have kept := platform.say_directory ("[red]File already exists:[/red] " ++ Command.planFileName name) { directory }
  cases said : (platform.say ("[red]File already exists:[/red] " ++ Command.planFileName name)).run { directory } with
  | mk outcome after =>
      rw [said] at kept
      cases outcome with
      | ok value => exact ⟨.exit 1, after, Run.run_bind_ok _ said, kept, rfl⟩
      | error stop =>
          obtain ⟨reason, -, rfl, -⟩ := Platform.error_of_say said
          exact ⟨_, after, Run.run_bind_error _ said, kept, rfl⟩

theorem run_init_of_long
    (long : directory.target (.ofText (Command.planFileName name)) = .unreachable .nameTooLong) :
    (platform.init name).run { directory } = (.error (.crash (.file .nameTooLong)), { directory }) := by
  have exist := Run.run_pathExists (.ofText (Command.planFileName name)) { directory }
  simp only [long] at exist
  rw [Platform.init, Run.run_bind_error _ exist]

theorem run_init_of_free (conforms : platform.Conforms)
    (free : directory.target (.ofText (Command.planFileName name)) = .nothing) :
    ∃ after, (platform.init name).run { directory } = (.ok (), after) ∧
      after.directory = directory.holding (.ofText (Command.planFileName name))
        ((Sample.named (titleOf name)).save 2) := by
  have exist := Run.run_pathExists (.ofText (Command.planFileName name)) { directory }
  simp only [free] at exist
  have writable : (directory.target (.ofText (Command.planFileName name))).isWritable = true := by
    rw [free]
    rfl
  have held := Directory.write_eq_ok writable ((Sample.named (titleOf name)).save 2)
  rw [(FilePath.isName_planFileName name).resolve_eq] at held
  generalize directory.holding (.ofText (Command.planFileName name))
    ((Sample.named (titleOf name)).save 2) = filled at held ⊢
  have written : (platform.writeText (.ofText (Command.planFileName name))
      ((Sample.named (titleOf name)).save 2)).run { directory } = (.ok (), { directory := filled }) :=
    Platform.run_writeText (encodes_save conforms _) held
  obtain ⟨first, said, sameFirst⟩ :=
    Platform.run_say_of_shown (conforms.shown_created name) { directory := filled }
  obtain ⟨last, saidLast, sameLast⟩ := Platform.run_say_of_shown (conforms.shown_nextStep name) first
  have plan : { Sample.plan with name := titleOf name } = Sample.named (titleOf name) := rfl
  refine ⟨last, ?_, sameLast.trans sameFirst⟩
  rw [Platform.init, Run.run_bind_ok _ exist, if_neg Bool.false_ne_true]
  dsimp only
  rw [plan, Run.run_bind_ok _ written, Run.run_bind_ok _ said, saidLast]

def Directory.Refuses (directory : Directory) (fileName : String) : Prop :=
  directory.Holds fileName ∨ nameLimit < fileName.utf8ByteSize

theorem run_init_of_refuses (refuses : directory.Refuses (Command.planFileName name)) :
    ∃ stop after, (platform.init name).run { directory } = (.error stop, after) ∧ after.directory = directory ∧
      stop.code = 1 := by
  have isName := FilePath.isName_planFileName name
  have leads := directory.target_ofText isName
  by_cases long : Directory.nameLimit < (Command.planFileName name).utf8ByteSize
  · rw [if_pos long] at leads
    exact ⟨_, _, run_init_of_long leads, rfl, rfl⟩
  · rw [if_neg long] at leads
    apply run_init_of_taken
    rw [Run.run_pathExists]
    rcases Directory.targetAt_of_holds isName (refuses.resolve_right long) with ⟨contents, file⟩ | folder
    · simp only [leads, file]
    · simp only [leads, folder]

theorem target_of_not_refuses (accepts : ¬ directory.Refuses (Command.planFileName name)) :
    directory.target (.ofText (Command.planFileName name)) = .nothing := by
  have isName := FilePath.isName_planFileName name
  rw [Directory.Refuses, not_or] at accepts
  rw [directory.target_ofText isName, if_neg accepts.2]
  exact Directory.targetAt_of_not_holds isName accepts.1

end

theorem planFileName_stays (name : String) :
    ∃ stem, Command.planFileName name = stem ++ ".json" ∧ ∀ mark ∈ ['/', '\\', '.'], mark ∉ stem.toList := by
  obtain ⟨stem, same, all⟩ := exists_planFileName name
  refine ⟨stem, same, fun mark isMark inStem => ?_⟩
  have excluded : ∀ mark ∈ ['/', '\\', '.'], isNameCharacter mark = false := by decide
  exact Bool.false_ne_true ((excluded mark isMark).symm.trans (all mark inStem))

/-- `init` fails and changes nothing exactly if a file or a folder has the name of the new file, or if this name is
too long for one. Otherwise it adds the file, which holds the sample under the given name. -/
theorem init_adds_file {invocation : Invocation} (conforms : invocation.platform.Conforms)
    (named : invocation.command? = some (.init name)) :
    let fileName := Command.planFileName name
    let directory := invocation.directory
    let outcome := invocation.run
    (∃ stem, fileName = stem ++ ".json" ∧ ∀ mark ∈ ['/', '\\', '.'], mark ∉ stem.toList) ∧
      (directory.Refuses fileName → outcome.exit = 1 ∧ outcome.session.directory = directory) ∧
      (¬ directory.Refuses fileName → outcome.exit = 0 ∧ ∃ contents,
        outcome.session.directory =
          { directory with files := directory.files ++ [(fileName, contents)] } ∧
        Plan.load invocation.platform.reader contents = .ok (Sample.named (titleOf name))) := by
  refine ⟨planFileName_stays name, fun refuses => ?_, fun accepts => ?_⟩
  · obtain ⟨stop, after, stopped, same, code⟩ := run_init_of_refuses refuses
    obtain ⟨exit, session⟩ := Invocation.exit_eq_code named stopped
    rw [exit, session]
    exact ⟨code, same⟩
  · obtain ⟨after, done, same⟩ := run_init_of_free conforms (target_of_not_refuses accepts)
    obtain ⟨exit, session⟩ := Invocation.exit_of_done named done
    have fresh : Command.planFileName name ∉ invocation.directory.files.map Prod.fst :=
      fun member => accepts (.inl (.inl member))
    refine ⟨exit, (Sample.named (titleOf name)).save 2, ?_, Sample.load_save_named _ (titleOf name)⟩
    rw [session, same, Directory.holding, (FilePath.isName_planFileName name).text_eq,
      Entries.put_of_fresh fresh]

def initShop : Invocation where
  platform := .standard
  arguments := ["init", "My-Shop"]
  directory := { files := [("k6_test.json", "\x7b\x7d")] }
  now := .ofEpoch 0

theorem init_adds_file_shop :
    initShop.run.exit = 0 ∧ ∃ contents,
      initShop.run.session.directory =
        { files := [("k6_test.json", "\x7b\x7d"), ("my_shop.json", contents)] } ∧
      Plan.load .standard contents = .ok (Sample.named "My Shop") := by
  have named : initShop.command? = some (.init "My-Shop") := by decide
  have fileName : Command.planFileName "My-Shop" = "my_shop.json" := by decide
  have title : titleOf "My-Shop" = "My Shop" := by decide
  have accepts : ¬ initShop.directory.Refuses "my_shop.json" := by
    unfold Directory.Refuses Directory.Holds
    decide
  have added := (init_adds_file Platform.standard_conforms named).2.2
  rw [fileName, title] at added
  exact added accepts

/-! A name that is too long. -/

def letters (count : Nat) : String := String.ofList (List.replicate count 'a')

variable (count : Nat)

theorem lowerFrom_letters (before : List Char) :
    Text.lowerFrom before (List.replicate count 'a') = List.replicate count 'a' := by
  induction count generalizing before with
  | zero => rfl
  | succ count ih =>
      rw [List.replicate_succ, Text.lowerFrom, ih]
      rfl

theorem planFileName_letters : Command.planFileName (letters (count + 1)) = letters (count + 1) ++ ".json" := by
  have words : ((letters (count + 1)).toList.map fun character =>
      if Text.isWordCharacter character then character else '_') = List.replicate (count + 1) 'a' := by
    rw [letters, String.toList_ofList, List.map_replicate]
    rfl
  have lower : Text.lower (String.ofList (List.replicate (count + 1) 'a')) = letters (count + 1) := by
    rw [Text.lower, String.toList_ofList, lowerFrom_letters, letters]
  have nonempty : letters (count + 1) ≠ "" := by
    simp [letters, List.replicate_succ]
  rw [Command.planFileName, words, lower, if_neg nonempty]

theorem utf8ByteSize_letters : (letters count).utf8ByteSize = count := by
  induction count with
  | zero => rfl
  | succ count ih =>
      have longer : letters (count + 1) = letters count ++ "a" := by
        rw [letters, letters, List.replicate_succ', String.ofList_append]
      rw [longer, String.utf8ByteSize_append, ih]
      rfl

theorem isDashed_letters : isDashed (letters (count + 1)) = false := by
  rw [isDashed, letters, Text.startsWith, List.replicate_succ, Bool.and_eq_false_iff]
  right
  rw [String.toList_ofList, String.toList_ofList]
  rfl

/-- An operand of `init` is a name, whatever it holds. -/
theorem parse_init (noOption : isDashed name = false) :
    Platform.standard.parse ["init", name] = some (.init name) := by
  have noEnd : name ≠ "--" := by
    rintro rfl
    exact absurd noOption (by decide)
  have program : read Command.programOptions true ["init", name] = some { operands := ["init", name] } := rfl
  have operands : read Command.initOptions false [name] = some { operands := [name] } := by
    simp [read, readFrom, noEnd, noOption]
  have named : Command.named? ["init", name] = some (.init name) := by
    rw [Command.named?, program]
    simp [Command.readCommand?, operands, Command.isOn, Command.initOf?, Entries.find?]
  have path : (Command.init name).hasPathTexts = true := by
    have noNull : Char.ofNat 0 ∉ (Command.planFileName name).toList :=
      notMem_planFileName (by decide) (by decide) name
    simp [Command.hasPathTexts, Command.paths, FilePath.isPathText, noNull]
  show Command.ofArguments? ["init", name] = _
  rw [Command.ofArguments?, named, Option.filter_some, if_pos path]

/-- No file is there, and still none is created. -/
theorem init_longName :
    let invocation : Invocation := {
      platform := .standard, arguments := ["init", letters 300], now := .ofEpoch 0 }
    invocation.directory.files = [] ∧ invocation.run.exit = 1 ∧
      invocation.run.session.directory.files = [] := by
  intro invocation
  have named : invocation.command? = some (.init (letters 300)) := by
    rw [Invocation.command?, parse_init (isDashed_letters 299)]
    rfl
  have refuses : invocation.directory.Refuses (Command.planFileName (letters 300)) := by
    right
    rw [planFileName_letters, String.utf8ByteSize_append, utf8ByteSize_letters]
    decide
  obtain ⟨stop, after, stopped, same, code⟩ := run_init_of_refuses refuses
  obtain ⟨exit, session⟩ := Invocation.exit_eq_code named stopped
  rw [exit, session, same]
  exact ⟨rfl, code, rfl⟩

end CommandLine

end LoadScript
