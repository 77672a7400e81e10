import LoadScript.Proofs.CommandLine.FileNames
import LoadScript.Proofs.CommandLine.Imports

/-!
What a command that fails leaves behind. All that may fail is tried before a file is written, apart from the
encoding of its text and the messages that tell of it: these quote texts of the user as they are, and a message
that the console does not show stops the command when the file is there already.
-/

namespace LoadScript.CommandLine

variable {α β : Type} {platform : Platform} {session after : Session} {stop : Stop}

namespace Run

/-! Steps that change no file. -/

def Keeps (run : Run α) : Prop := ∀ session, (run.run session).2.directory = session.directory

theorem Keeps.directory_eq {run : Run α} (keeps : run.Keeps) {outcome : Except Stop α}
    (ran : run.run session = (outcome, after)) : after.directory = session.directory := by
  rw [← keeps session, ran]

theorem Keeps.bind {first : Run α} {next : α → Run β} (keeps : first.Keeps)
    (later : ∀ value, (next value).Keeps) : (first >>= next).Keeps := by
  intro session
  rw [run_bind]
  cases ran : first.run session with
  | mk outcome after =>
      cases outcome with
      | ok value => rw [later value after, keeps.directory_eq ran]
      | error stop => exact keeps.directory_eq ran

theorem keeps_pure (value : α) : (pure value : Run α).Keeps := fun _ => rfl

theorem keeps_stop (code : Nat) : (Run.stop code : Run α).Keeps := fun _ => rfl

theorem keeps_crash (error : Crash) : (crash error : Run α).Keeps := fun _ => rfl

theorem keeps_readText (path : FilePath) : (readText path).Keeps := by
  intro session
  rw [readText, run_bind_ok _ (run_get session)]
  cases session.directory.read path <;> rfl

theorem keeps_pathExists (path : FilePath) : (pathExists path).Keeps := by
  intro session
  rw [run_pathExists]
  split <;> rfl

theorem keeps_forIn (items : List α) (step : α → Run (ForInStep PUnit))
    (keeps : ∀ item, (step item).Keeps) : (forIn items PUnit.unit fun item _ => step item).Keeps := by
  induction items with
  | nil => exact keeps_pure _
  | cons item rest ih =>
      rw [List.forIn_cons]
      refine (keeps item).bind fun next => ?_
      cases next with
      | done value => exact keeps_pure _
      | yield value => exact ih

theorem Keeps.error_of_bind {first : Run α} {next : α → Run β} (keeps : first.Keeps)
    (failed : (first >>= next).run session = (.error stop, after)) :
    after.directory = session.directory ∨
      ∃ value between, first.run session = (.ok value, between) ∧
        between.directory = session.directory ∧ (next value).run between = (.error stop, after) := by
  rw [run_bind] at failed
  cases ran : first.run session with
  | mk outcome between =>
      have same := keeps.directory_eq ran
      rw [ran] at failed
      cases outcome with
      | ok value => exact .inr ⟨value, between, rfl, same, failed⟩
      | error stopped =>
          cases failed
          exact .inl same

end Run

namespace Platform

theorem keeps_say (platform : Platform) (message : String) : (platform.say message).Keeps :=
  platform.say_directory message

theorem keeps_sayPanel (platform : Platform) (message : String) : (platform.sayPanel message).Keeps := by
  intro session
  rw [sayPanel]
  split <;> rfl

theorem keeps_fail (platform : Platform) (reason : String) : (platform.fail reason : Run α).Keeps :=
  (platform.keeps_say _).bind fun _ => Run.keeps_stop 1

theorem keeps_encode (platform : Platform) (text : String) : (platform.encode text).Keeps := by
  rw [encode]
  split
  · exact Run.keeps_pure _
  · exact Run.keeps_crash _

theorem keeps_put (platform : Platform) (text : String) : (platform.put text).Keeps :=
  (platform.keeps_encode _).bind fun _ _ => rfl

theorem keeps_loadPlan (platform : Platform) (path : FilePath) : (platform.loadPlan path).Keeps := by
  refine (Run.keeps_readText path).bind fun contents => ?_
  split
  · exact Run.keeps_pure _
  · split
    · exact platform.keeps_fail _
    · exact Run.keeps_crash _

theorem keeps_planToExtend (platform : Platform) (path : FilePath) : (platform.planToExtend path).Keeps := by
  refine (Run.keeps_pathExists path).bind fun found => ?_
  split
  · exact platform.keeps_loadPlan path
  · exact Run.keeps_pure _

/-! The messages about a new plan are shown: its name is made of word characters. -/

theorem noBracket_planFileName (name : String) : '[' ∉ (Command.planFileName name).toList :=
  notMem_planFileName (by decide) (by decide) name

theorem Conforms.shown_created (conforms : platform.Conforms) (name : String) :
    ∃ text, platform.shown ("[green]Created config:[/green] " ++ Command.planFileName name) = .ok text := by
  have label : "[green]" ++ "Created config" ++ ":[/green] " = "[green]Created config:[/green] " := by decide
  have shown := conforms.shown_labelled "Created config" _ (by decide) (noBracket_planFileName name)
  rwa [label] at shown

theorem Conforms.shown_nextStep (conforms : platform.Conforms) (name : String) :
    ∃ text, platform.shown ("Compile with: k6forge compile " ++ Command.planFileName name ++
      " -o script.js") = .ok text := by
  refine conforms.shown_plain _ ?_
  simp only [String.toList_append, List.mem_append, noBracket_planFileName, or_false, not_or]
  exact ⟨by decide, by decide⟩

/-! What is known of a step that is done, and of a message that fails. -/

theorem error_of_say {message : String} (failed : (platform.say message).run session = (.error stop, after)) :
    ∃ reason, platform.shown message = .error reason ∧ stop = .crash (.console reason) ∧
      after.directory = session.directory := by
  rw [say] at failed
  split at failed
  · cases failed
  · next reason unshown =>
      cases failed
      exact ⟨reason, unshown, rfl, rfl⟩

theorem error_of_sayPanel {message : String}
    (failed : (platform.sayPanel message).run session = (.error stop, after)) :
    ∃ reason, platform.panelled message = .error reason ∧ stop = .crash (.console reason) ∧
      after.directory = session.directory := by
  rw [sayPanel] at failed
  split at failed
  · cases failed
  · next reason unshown =>
      cases failed
      exact ⟨reason, unshown, rfl, rfl⟩

theorem run_say_error {message reason : String} (unshown : platform.shown message = .error reason)
    (session : Session) :
    (platform.say message).run session = (.error (.crash (.console reason)), session) := by
  rw [say, unshown]
  rfl

/-- A failure that comes when a file is to be written is met before it is, when its text is encoded, or after it
was written. -/
theorem error_of_writeText {path : FilePath} {contents : String} {next : Unit → Run β}
    (failed : (platform.writeText path contents >>= next).run session = (.error stop, after)) :
    after.directory = session.directory ∨
      (platform.encodes contents = false ∧ session.directory.write path "" = .ok after.directory ∧
        stop = .crash .encoding) ∨
      ∃ directory, session.directory.write path contents = .ok directory ∧
        (next ()).run { session with directory } = (.error stop, after) := by
  cases writable : (session.directory.target path).isWritable with
  | false =>
      obtain ⟨error, refused⟩ := Directory.write_eq_error writable
      rw [Run.run_bind_error _ (run_writeText_error refused)] at failed
      cases failed
      exact .inl rfl
  | true =>
      cases encodes : platform.encodes contents with
      | false =>
          have opened := Directory.write_eq_ok writable ""
          rw [Run.run_bind_error _ (run_writeText_unencoded encodes opened)] at failed
          cases failed
          exact .inr (.inl ⟨rfl, opened, rfl⟩)
      | true =>
          have written := Directory.write_eq_ok writable contents
          rw [Run.run_bind_ok _ (run_writeText encodes written)] at failed
          exact .inr (.inr ⟨_, written, failed⟩)

theorem read_of_loadPlan {path : FilePath} {plan : Plan}
    (loaded : (platform.loadPlan path).run session = (.ok plan, after)) :
    ∃ contents, session.directory.read path = .ok contents ∧
      Plan.load platform.reader (Text.unifyLineEnds contents) = .ok plan := by
  cases held : session.directory.read path with
  | error error =>
      rw [loadPlan, Run.readText, bind_assoc, Run.run_bind_ok _ (Run.run_get session), held] at loaded
      cases loaded
  | ok contents =>
      cases read : Plan.load platform.reader (Text.unifyLineEnds contents) with
      | error error =>
          obtain ⟨stop, other, failed, -⟩ := run_loadPlan_error held read
          cases failed.symm.trans loaded
      | ok other =>
          cases (run_loadPlan held read).symm.trans loaded
          exact ⟨contents, rfl, read⟩

end Platform

theorem planAt?_of_read {reader : Json.Reader} {directory : Directory} {file contents : String} {plan : Plan}
    (held : directory.read (.ofText file) = .ok contents)
    (loaded : Plan.load reader (Text.unifyLineEnds contents) = .ok plan) :
    directory.planAt? reader file = some plan := by
  rw [Directory.read] at held
  rw [Directory.planAt?]
  cases target : directory.target (.ofText file) with
  | file found =>
      rw [target] at held
      cases held
      exact congrArg Except.toOption loaded
  | folder => rw [target] at held; cases held
  | nothing => rw [target] at held; cases held
  | unreachable error => rw [target] at held; cases held

theorem planAt?_of_planToExtend {file : String} {plan : Plan}
    (found : (platform.planToExtend (.ofText file)).run session = (.ok plan, after)) :
    session.directory.planAt? platform.reader file = some plan := by
  have exist := Run.run_pathExists (.ofText file) session
  rw [Platform.planToExtend] at found
  split at exist
  · rw [Run.run_bind_ok _ exist, if_pos rfl] at found
    obtain ⟨contents, held, loaded⟩ := Platform.read_of_loadPlan found
    exact planAt?_of_read held loaded
  · rw [Run.run_bind_ok _ exist, if_pos rfl] at found
    obtain ⟨contents, held, loaded⟩ := Platform.read_of_loadPlan found
    exact planAt?_of_read held loaded
  · rw [Run.run_bind_error _ exist] at found
    cases found
  · next missing =>
      rw [Run.run_bind_ok _ exist] at found
      cases found
      rw [Directory.planAt?, missing]
  · next missing =>
      rw [Run.run_bind_ok _ exist] at found
      cases found
      rw [Directory.planAt?, missing]

namespace Invocation

variable {invocation : Invocation}

theorem keeps_loadSettings (invocation : Invocation) : invocation.loadSettings.Keeps := by
  rw [loadSettings]
  split
  · exact Run.keeps_pure _
  · exact invocation.platform.keeps_fail _

theorem load_of_loadSettings {settings : Settings}
    (ran : invocation.loadSettings.run session = (.ok settings, after)) :
    Settings.load invocation.environment = .ok settings := by
  rw [loadSettings] at ran
  split at ran
  · next accepted =>
      cases ran
      exact accepted
  · next error _ =>
      obtain ⟨stop, other, failed, -⟩ := @Platform.run_fail Settings invocation.platform error.message session
      cases failed.symm.trans ran

theorem keeps_readCurl (invocation : Invocation) (command : ImportCommand) :
    (invocation.readCurl command).Keeps := by
  rw [readCurl]
  split
  · exact Run.keeps_pure _
  · exact Run.keeps_readText _
  · exact Run.keeps_pure _

/-! What is shown of a file that was written. -/

def curlText? (invocation : Invocation) (command : ImportCommand) : Option String :=
  match command.command, command.file with
  | some text, _ => some text
  | none, some file => (invocation.directory.read (.ofText file)).toOption.map Text.unifyLineEnds
  | none, none => some (Text.unifyLineEnds invocation.input)

theorem curlText?_of_readCurl {command : ImportCommand} {text : String}
    (start : session.directory = invocation.directory)
    (ran : (invocation.readCurl command).run session = (.ok text, after)) :
    invocation.curlText? command = some text := by
  rw [readCurl] at ran
  rw [curlText?]
  cases operand : command.command with
  | some given =>
      simp only [operand] at ran
      cases ran
      rfl
  | none =>
      cases source : command.file with
      | none =>
          simp only [operand, source] at ran
          cases ran
          rfl
      | some file =>
          simp only [operand, source] at ran
          cases held : session.directory.read (.ofText file) with
          | error error =>
              rw [Run.readText, Run.run_bind_ok _ (Run.run_get session), held] at ran
              cases ran
          | ok contents =>
              cases (Run.run_readText held).symm.trans ran
              simp only [← start, held]
              rfl

def compileJob (invocation : Invocation) (command : CompileCommand) (settings : Settings) (plan : Plan) :
    Compile.Job where
  plan := plan
  profile := orDefault command.profile settings.defaultProfile
  generatedAt := invocation.now
  scriptName := ((command.output.map FilePath.ofText).map FilePath.fileName).getD settings.scriptName

inductive WritesScript (invocation : Invocation) : Compile.Job → (file script : String) → Prop where
  | intro {command : CompileCommand} {file script : String} {settings : Settings} {plan : Plan}
      (named : invocation.command? = some (.compile command)) (output : command.output = some file)
      (accepted : Settings.load invocation.environment = .ok settings)
      (stands : invocation.directory.planAt? invocation.platform.reader command.plan = some plan)
      (written : (invocation.compileJob command settings plan).script.value = .ok script) :
      WritesScript invocation (invocation.compileJob command settings plan) file script

inductive WritesRequest (invocation : Invocation) : Request → Plan → (file : String) → Prop where
  | intro {command : ImportCommand} {file text : String} {imported : Logged Request} {plan : Plan}
      (named : invocation.command? = some (.importCurl command)) (target : command.plan = some file)
      (given : invocation.curlText? command = some text)
      (accepted : Curl.importRequest text = .ok imported)
      (stands : invocation.directory.planAt? invocation.platform.reader file = some plan) :
      WritesRequest invocation (relabelled command imported.value) plan file

inductive Announces (invocation : Invocation) :
    (path : FilePath) → (contents : String) → (taken : Except String String) → Prop where
  | summary {job : Compile.Job} {file script : String} (writes : invocation.WritesScript job file script) :
      Announces invocation (.ofText file) script
        (invocation.platform.panelled (summary job (Compile.loadShape job.plan).value))
  | script {job : Compile.Job} {file script : String} (writes : invocation.WritesScript job file script) :
      Announces invocation (.ofText file) script
        (invocation.platform.shown ("[green]Wrote script:[/green] " ++ (FilePath.ofText file).text))
  | request {request : Request} {plan : Plan} {file : String}
      (writes : invocation.WritesRequest request plan file) :
      Announces invocation (.ofText file) ((plan.extended request).save 2)
        (invocation.platform.shown ("[green]Added request #" ++
          toString (plan.extended request).requests.length ++ ":[/green] " ++ request.method.name ++ " " ++
          request.url ++ " -> " ++ (FilePath.ofText file).text))

/-- A file that a failure leaves behind: it was written, and the console does not show the message about it, or it
was opened for a script that cannot be encoded. -/
inductive LeavesFile (invocation : Invocation) : Crash → (after : Directory) → Prop where
  | untold {path : FilePath} {contents reason : String} {taken : Except String String} {after : Directory}
      (announces : invocation.Announces path contents taken) (refused : taken = .error reason)
      (written : invocation.directory.write path contents = .ok after) :
      LeavesFile invocation (.console reason) after
  | emptied {job : Compile.Job} {file script : String} {after : Directory}
      (writes : invocation.WritesScript job file script)
      (unencoded : invocation.platform.encodes script = false)
      (opened : invocation.directory.write (.ofText file) "" = .ok after) :
      LeavesFile invocation .encoding after

/-! The commands. -/

def LeavesBehind (invocation : Invocation) (stop : Stop) (after : Directory) : Prop :=
  after = invocation.directory ∨ ∃ crash, stop = .crash crash ∧ invocation.LeavesFile crash after

theorem leavesBehind_of_writesScript {job : Compile.Job} {file script : String} {sink : Log.Sink}
    (writes : invocation.WritesScript job file script) (start : session.directory = invocation.directory)
    (failed : ExceptT.run (do
      invocation.platform.writeText (.ofText file) script
      let shape ← Run.report sink (Compile.loadShape job.plan)
      invocation.platform.sayPanel (summary job shape)
      invocation.platform.say ("[green]Wrote script:[/green] " ++ (FilePath.ofText file).text)) session =
        (.error stop, after)) : invocation.LeavesBehind stop after.directory := by
  obtain same | ⟨unencoded, opened, stopped⟩ | ⟨directory, written, failed⟩ :=
    Platform.error_of_writeText failed
  · exact .inl (same.trans start)
  · exact .inr ⟨_, stopped, .emptied writes unencoded (start ▸ opened)⟩
  rw [start] at written
  rw [Run.run_bind_ok _ (Run.run_report sink _ _)] at failed
  rw [Run.run_bind] at failed
  split at failed
  · next between shown =>
      obtain ⟨reason, unshown, stopped, same⟩ := Platform.error_of_say failed
      have kept : after.directory = directory :=
        same.trans ((invocation.platform.keeps_sayPanel _).directory_eq shown)
      exact .inr ⟨_, stopped, .untold (.script writes) unshown (kept ▸ written)⟩
  · next untold =>
      cases failed
      obtain ⟨reason, unshown, stopped, same⟩ := Platform.error_of_sayPanel untold
      have kept : after.directory = directory := same
      exact .inr ⟨_, stopped, .untold (.summary writes) unshown (kept ▸ written)⟩

theorem compile_failed {command : CompileCommand}
    (named : invocation.command? = some (.compile command))
    (failed : (invocation.compile command).run { directory := invocation.directory } = (.error stop, after)) :
    invocation.LeavesBehind stop after.directory := by
  rw [compile] at failed
  obtain same | ⟨settings, first, ranSettings, sameFirst, failed⟩ :=
    invocation.keeps_loadSettings.error_of_bind failed
  · exact .inl same
  have accepted := load_of_loadSettings ranSettings
  obtain same | ⟨plan, second, ranPlan, sameSecond, failed⟩ :=
    (invocation.platform.keeps_loadPlan _).error_of_bind failed
  · exact .inl (same.trans sameFirst)
  obtain ⟨contents, held, loaded⟩ := Platform.read_of_loadPlan ranPlan
  have stands : invocation.directory.planAt? invocation.platform.reader command.plan = some plan := by
    rw [sameFirst] at held
    exact planAt?_of_read held loaded
  have warnings : (forIn plan.problems PUnit.unit fun problem _ => do
      invocation.platform.say ("[yellow]Warning:[/yellow] " ++ problem)
      pure (ForInStep.yield PUnit.unit)).Keeps :=
    Run.keeps_forIn _ _ fun problem => (invocation.platform.keeps_say _).bind fun _ => Run.keeps_pure _
  obtain same | ⟨-, third, -, sameThird, failed⟩ := warnings.error_of_bind failed
  · exact .inl (same.trans (sameSecond.trans sameFirst))
  have start : third.directory = invocation.directory := sameThird.trans (sameSecond.trans sameFirst)
  by_cases strict : (command.strict && !plan.problems.isEmpty) = true
  · rw [if_pos strict] at failed
    cases failed
    exact .inl start
  rw [if_neg strict] at failed
  dsimp only at failed
  rw [Run.run_bind_ok _ (Run.run_report _ _ third)] at failed
  cases compiled : (invocation.compileJob command settings plan).script.value with
  | error number =>
      rw [compileJob] at compiled
      simp only [compiled] at failed
      cases failed
      exact .inl start
  | ok script =>
      cases output : command.output with
      | none =>
          simp only [compileJob, output, Option.map_none] at compiled
          simp only [output, Option.map_none, compiled, pure_bind] at failed
          exact .inl (((invocation.platform.keeps_put _).directory_eq failed).trans start)
      | some file =>
          have writes : invocation.WritesScript (invocation.compileJob command settings plan) file script :=
            .intro named output accepted stands compiled
          simp only [compileJob, output, Option.map_some] at writes compiled
          simp only [output, Option.map_some, compiled, pure_bind] at failed
          refine leavesBehind_of_writesScript writes ?_ failed
          exact start

theorem readCurl_failed {command : ImportCommand} {next : String → Run Unit}
    (failed : (invocation.readCurl command >>= next).run { directory := invocation.directory } =
      (.error stop, after)) :
    after.directory = invocation.directory ∨
      ∃ text between, invocation.curlText? command = some text ∧
        between.directory = invocation.directory ∧ (next text).run between = (.error stop, after) := by
  obtain same | ⟨text, between, ran, same, failed⟩ := (invocation.keeps_readCurl command).error_of_bind failed
  · exact .inl same
  · exact .inr ⟨text, between, curlText?_of_readCurl rfl ran, same, failed⟩

theorem importCurl_failed (conforms : invocation.platform.Conforms) {command : ImportCommand}
    (named : invocation.command? = some (.importCurl command))
    (failed : (invocation.importCurl command).run { directory := invocation.directory } =
      (.error stop, after)) : invocation.LeavesBehind stop after.directory := by
  rw [importCurl] at failed
  obtain same | ⟨text, first, given, sameFirst, failed⟩ := readCurl_failed failed
  · exact .inl same
  cases accepted : Curl.importRequest text with
  | error error =>
      simp only [accepted] at failed
      obtain same | ⟨request, between, ran, -⟩ :=
        (@Platform.keeps_fail Request invocation.platform error.message).error_of_bind failed
      · exact .inl (same.trans sameFirst)
      · obtain ⟨stop, other, stopped, -⟩ := @Platform.run_fail Request invocation.platform error.message first
        cases stopped.symm.trans ran
  | ok imported =>
      simp only [accepted, pure_bind] at failed
      cases target : command.plan with
      | none =>
          simp only [target, Option.map_none] at failed
          exact .inl (((invocation.platform.keeps_put _).directory_eq failed).trans sameFirst)
      | some file =>
          simp only [target, Option.map_some] at failed
          obtain same | ⟨plan, second, ranPlan, sameSecond, failed⟩ :=
            (invocation.platform.keeps_planToExtend _).error_of_bind failed
          · exact .inl (same.trans sameFirst)
          have stands : invocation.directory.planAt? invocation.platform.reader file = some plan :=
            sameFirst ▸ planAt?_of_planToExtend ranPlan
          have writes := WritesRequest.intro named target given accepted stands
          obtain same | ⟨unencoded, -, -⟩ | ⟨directory, written, failed⟩ :=
            Platform.error_of_writeText failed
          · exact .inl (same.trans (sameSecond.trans sameFirst))
          · cases unencoded.symm.trans (encodes_save conforms _)
          rw [sameSecond.trans sameFirst] at written
          obtain ⟨reason, unshown, stopped, same⟩ := Platform.error_of_say failed
          have kept : after.directory = directory := same
          exact .inr ⟨_, stopped, .untold (.request writes) unshown (kept ▸ written)⟩

theorem init_failed (conforms : platform.Conforms) {name : String}
    (failed : (platform.init name).run session = (.error stop, after)) :
    after.directory = session.directory := by
  rw [Platform.init] at failed
  obtain same | ⟨exist, first, -, sameFirst, failed⟩ := (Run.keeps_pathExists _).error_of_bind failed
  · exact same
  cases exist with
  | true =>
      rw [if_pos rfl] at failed
      obtain same | ⟨-, second, -, sameSecond, failed⟩ := (platform.keeps_say _).error_of_bind failed
      · exact same.trans sameFirst
      · cases failed
        exact sameSecond.trans sameFirst
  | false =>
      rw [if_neg Bool.false_ne_true] at failed
      dsimp only at failed
      obtain same | ⟨unencoded, -, -⟩ | ⟨directory, -, failed⟩ := Platform.error_of_writeText failed
      · exact same.trans sameFirst
      · cases unencoded.symm.trans (encodes_save conforms _)
      · -- Both of the messages that are left are shown.
        obtain ⟨first, shown⟩ := conforms.shown_created name
        obtain ⟨last, shownLast⟩ := conforms.shown_nextStep name
        rw [Run.run_bind] at failed
        split at failed
        · obtain ⟨reason, unshown, -⟩ := Platform.error_of_say failed
          cases unshown.symm.trans shownLast
        · next untold =>
            obtain ⟨reason, unshown, -⟩ := Platform.error_of_say untold
            cases unshown.symm.trans shown

theorem serve_failed {command : ServeCommand}
    (failed : (invocation.serve command).run session = (.error stop, after)) :
    after.directory = session.directory := by
  rw [serve] at failed
  obtain same | ⟨settings, first, -, sameFirst, failed⟩ :=
    invocation.keeps_loadSettings.error_of_bind failed
  · exact same
  obtain same | ⟨-, second, -, sameSecond, failed⟩ :=
    (invocation.platform.keeps_say _).error_of_bind failed
  · exact same.trans sameFirst
  · cases failed

theorem perform_failed (conforms : invocation.platform.Conforms) {command : Command}
    (named : invocation.command? = some command)
    (failed : (invocation.perform command).run { directory := invocation.directory } =
      (.error stop, after)) : invocation.LeavesBehind stop after.directory := by
  cases command with
  | version => exact .inl ((invocation.platform.keeps_put _).directory_eq failed)
  | help => exact .inl ((invocation.platform.keeps_put _).directory_eq failed)
  | compile command => exact compile_failed named failed
  | importCurl command => exact importCurl_failed conforms named failed
  | init name => exact .inl (init_failed conforms failed)
  | serve command => exact .inl (serve_failed failed)

end Invocation

theorem run_init_of_exists {name : String}
    (found : (Run.pathExists (.ofText (Command.planFileName name))).run session = (.ok true, session)) :
    ∃ stop after, (platform.init name).run session = (.error stop, after) ∧ stop ≠ .exit 0 := by
  obtain ⟨outcome, after, said, -, notZero⟩ :=
    platform.run_say ("[red]File already exists:[/red] " ++ Command.planFileName name) session
  rw [Platform.init, Run.run_bind_ok _ found, if_pos rfl]
  cases outcome with
  | error stop => exact ⟨stop, after, Run.run_bind_error _ said, fun zero => notZero (by rw [zero])⟩
  | ok value => exact ⟨.exit 1, after, Run.run_bind_ok _ said, by simp⟩

/-- A command that fails leaves all files as they were, unless it has written a file and the console does not show
its message about it, or it has opened a file for a script that cannot be encoded. -/
theorem failure_keeps_files {invocation : Invocation} (conforms : invocation.platform.Conforms)
    (failed : invocation.run.exit ≠ 0) :
    invocation.run.session.directory = invocation.directory ∨
      ∃ crash, invocation.run.crash = some crash ∧
        invocation.LeavesFile crash invocation.run.session.directory := by
  cases named : invocation.command? with
  | none =>
      rw [Invocation.run, named]
      exact .inl rfl
  | some command =>
      cases ran : (invocation.perform command).run { directory := invocation.directory } with
      | mk outcome after =>
          cases outcome with
          | ok value => exact absurd (Invocation.exit_of_done named ran).1 failed
          | error stop =>
              rw [(Invocation.exit_of_stop named ran).2]
              obtain same | ⟨crash, rfl, leaves⟩ := Invocation.perform_failed conforms named ran
              · exact .inl same
              · refine .inr ⟨crash, ?_, leaves⟩
                simp only [Invocation.run, named, ran]

def initAgain : Invocation where
  platform := .standard
  arguments := ["init"]
  directory := { files := [("k6_test.json", "\x7b\x7d")] }
  now := .ofEpoch 0

theorem failure_keeps_files_initAgain :
    initAgain.run.exit ≠ 0 ∧ initAgain.run.session.directory = initAgain.directory := by
  have named : initAgain.command? = some (.init "k6_test") := by decide
  have found : (Run.pathExists (.ofText (Command.planFileName "k6_test"))).run
      { directory := initAgain.directory } = (.ok true, { directory := initAgain.directory }) := by
    rfl
  obtain ⟨stop, after, ran, notZero⟩ := @run_init_of_exists .standard _ _ found
  have failed : initAgain.run.exit ≠ 0 :=
    fun zero => notZero ((Invocation.exit_of_stop named ran).1.mp zero)
  refine ⟨failed, ?_⟩
  obtain same | ⟨crash, -, leaves⟩ := failure_keeps_files Platform.standard_conforms failed
  · exact same
  · cases leaves with
    | untold announces =>
        cases announces with
        | summary writes => cases writes with | intro compiles => cases named.symm.trans compiles
        | script writes => cases writes with | intro compiles => cases named.symm.trans compiles
        | request writes => cases writes with | intro imports => cases named.symm.trans imports
    | emptied writes => cases writes with | intro compiles => cases named.symm.trans compiles

/-! Imports that are not told. -/

/-- A request whose message cannot be shown is added all the same, and its import counts as failed. -/
theorem ImportStep.run_untold (conforms : platform.Conforms) {file : String} (step : ImportStep platform file)
    {directory : Directory} {plan : Plan} (stands : directory.planAt? platform.reader file = some plan)
    (writable : directory.isWritable file = true) {request : Request} (added : step.added? = some request)
    {message reason : String}
    (whole : "[green]Added request #" ++ toString (plan.extended request).requests.length ++ ":[/green] " ++
      request.method.name ++ " " ++ request.url ++ " -> " ++ (FilePath.ofText file).text = message)
    (untold : platform.shown message = .error reason) :
    let outcome := (step.invocation directory).run
    outcome.exit = 1 ∧ outcome.crash = some (.console reason) ∧
      outcome.session.directory =
        directory.holding (FilePath.ofText file).resolve ((plan.extended request).save 2) := by
  intro outcome
  let start : Session := { directory }
  let last := directory.holding (FilePath.ofText file).resolve ((plan.extended request).save 2)
  obtain ⟨imported, accepted, labelled⟩ : ∃ imported, Curl.importRequest step.curl = .ok imported ∧
      step.labelled imported.value = request := by
    rw [added?] at added
    split at added
    · next imported accepted => exact ⟨imported, accepted, Option.some.inj added⟩
    · cases added
  have found : (platform.planToExtend (.ofText file)).run start = (.ok plan, start) := by
    have startStands : start.directory.planAt? platform.reader file = some plan := stands
    rcases run_planToExtend startStands with found | ⟨unwritable, -⟩
    · exact found
    · cases writable.symm.trans unwritable
  have curl : (step.invocation directory).readCurl step.command = pure step.curl := rfl
  have path : step.command.plan.map FilePath.ofText = some (.ofText file) := rfl
  have ran : ((step.invocation directory).perform (.importCurl step.command)).run start =
      (.error (.crash (.console reason)), { start with directory := last }) := by
    have same : (step.invocation directory).platform = platform := rfl
    have written : (platform.writeText (.ofText file) ((plan.extended request).save 2)).run start =
        (.ok (), { start with directory := last }) :=
      Platform.run_writeText (encodes_save conforms _) (Directory.write_eq_ok writable _)
    rw [Plan.extended] at written
    rw [Invocation.perform, Invocation.importCurl, curl, path, same, pure_bind]
    simp only [accepted, pure_bind, relabelled_command, labelled]
    rw [Run.run_bind_ok _ found, Run.run_bind_ok _ written]
    subst whole
    exact Platform.run_say_error untold _
  have ended : outcome = ⟨1, { start with directory := last }, some (.console reason)⟩ := by
    simp only [outcome, Invocation.run, step.invocation_command? directory]
    rw [show ({ directory := (step.invocation directory).directory } : Session) = start from rfl, ran]
  rw [ended]
  exact ⟨rfl, rfl, rfl⟩

def importTagged : ImportStep .standard "plan.json" where
  arguments := ["import-curl", "curl http://h/[/x]", "--config", "plan.json"]
  now := .ofEpoch 0
  curl := "curl http://h/[/x]"
  read := by decide

def taggedRequest : Request := {
  name := "Imported from cURL"
  url := "http://h/[/x]"
  checks := [⟨"status is 200", "r.status === 200"⟩] }

def plainMarks (text : List Char) : List Markup := text.map fun character => .text [character]

theorem plainFrom_plainMarks {styles : List String} {rest : List Markup} (text : List Char)
    {error : MarkupError} (failed : plainFrom styles rest = .error error) :
    plainFrom styles (plainMarks text ++ rest) = .error error := by
  induction text with
  | nil => exact failed
  | cons character text ih =>
      rw [plainMarks, List.map_cons, List.cons_append, plainFrom, ← plainMarks, ih]
      rfl

theorem plainText_unclosed :
    plainText "[green]Added request #1:[/green] GET http://h/[/x] -> plan.json" =
      .error (.nothingToClose "x") := by
  -- Taken apart at the tags, for the whole is too long to compute.
  let path : List Markup := plainMarks " -> plan.json".toList ++ [.text []]
  let url : List Markup := plainMarks " GET http://h/".toList ++ .text [] :: .closing "x".toList :: path
  let title : List Markup :=
    plainMarks "Added request #1:".toList ++ .text [] :: .closing "green".toList :: url
  have marks : markups 0 0 "[green]Added request #1:[/green] GET http://h/[/x] -> plan.json".toList =
      .text [] :: .opening "green".toList :: title := by rfl
  have opened : styleName "green".toList = "green" := by decide
  have closed : close ["green"] "green".toList = .ok [] := Outcome.eq_ok_of_toOption (by decide)
  have unclosed : close [] "x".toList = .error (.nothingToClose "x") :=
    Outcome.eq_error_of_fault? (by decide)
  have urlFails : plainFrom [] url = .error (.nothingToClose "x") := by
    refine plainFrom_plainMarks _ ?_
    rw [plainFrom, plainFrom, unclosed]
    rfl
  have titleFails : plainFrom ["green"] title = .error (.nothingToClose "x") := by
    refine plainFrom_plainMarks _ ?_
    rw [plainFrom, plainFrom, closed]
    show (do pure ([] ++ (← plainFrom [] url))) = _
    rw [urlFails]
    rfl
  rw [plainText, if_pos (by decide), marks, plainFrom, plainFrom, opened, titleFails]
  rfl

/-- A URL with a closing tag: the import fails, and there is a file that was not there before. -/
theorem import_untold :
    let outcome := (importTagged.invocation {}).run
    outcome.exit = 1 ∧ outcome.crash = some (.console (MarkupError.nothingToClose "x").message) ∧
      ({} : Directory).hasFile "plan.json" = false ∧
      outcome.session.directory.hasFile "plan.json" = true := by
  have missing : ({} : Directory).planAt? .standard "plan.json" = some {} := by rfl
  have writable : ({} : Directory).isWritable "plan.json" = true := by decide
  have added : importTagged.added? = some taggedRequest := by decide
  have whole : "[green]Added request #" ++ toString (Plan.extended {} taggedRequest).requests.length ++
      ":[/green] " ++ taggedRequest.method.name ++ " " ++ taggedRequest.url ++ " -> " ++
      (FilePath.ofText "plan.json").text =
        "[green]Added request #1:[/green] GET http://h/[/x] -> plan.json" := by decide
  have untold : Platform.standard.shown
      "[green]Added request #1:[/green] GET http://h/[/x] -> plan.json" =
        .error (MarkupError.nothingToClose "x").message := by
    rw [Platform.standard_shown, plainText_unclosed]
    rfl
  have ended := importTagged.run_untold Platform.standard_conforms missing writable added whole untold
  refine ⟨ended.1, ended.2.1, by decide, ?_⟩
  rw [ended.2.2]
  exact Directory.hasFile_holding writable _

end LoadScript.CommandLine
