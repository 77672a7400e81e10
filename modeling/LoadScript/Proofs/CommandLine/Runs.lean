import LoadScript.CommandLine.Program

/-!
What each step of a command leaves behind: its result or its stop, and the session after it.
-/

namespace LoadScript.CommandLine

variable {α β : Type} {session : Session}

namespace Run

theorem run_bind (first : Run α) (next : α → Run β) (session : Session) :
    (first >>= next).run session =
      match first.run session with
      | (.ok value, after) => (next value).run after
      | (.error stop, after) => (.error stop, after) := by
  have whole : (first >>= next).run session =
      ExceptT.bindCont next (first.run session).1 (first.run session).2 := rfl
  rw [whole]
  rcases first.run session with ⟨outcome, after⟩
  cases outcome <;> rfl

theorem run_bind_ok {first : Run α} {value : α} {after : Session} (next : α → Run β)
    (done : first.run session = (.ok value, after)) :
    (first >>= next).run session = (next value).run after := by
  rw [run_bind, done]

theorem run_bind_error {first : Run α} {stop : Stop} {after : Session} (next : α → Run β)
    (stopped : first.run session = (.error stop, after)) :
    (first >>= next).run session = (.error stop, after) := by
  rw [run_bind, stopped]

@[simp] theorem run_pure (value : α) (session : Session) :
    (pure value : Run α).run session = (.ok value, session) := rfl

@[simp] theorem run_get (session : Session) : (get : Run Session).run session = (.ok session, session) := rfl

@[simp] theorem run_stop (code : Nat) (session : Session) :
    (stop code : Run α).run session = (.error (.exit code), session) := rfl

@[simp] theorem run_crash (error : Crash) (session : Session) :
    (crash error : Run α).run session = (.error (.crash error), session) := rfl

@[simp] theorem run_send (messages : List Message) (session : Session) :
    (send messages).run session =
      (.ok (), { session with messages := session.messages ++ messages }) := rfl

@[simp] theorem run_report (sink : Log.Sink) (result : Logged α) (session : Session) :
    (report sink result).run session =
      (.ok result.value, { session with
        messages := session.messages ++
          (result.records.filter fun record => sink.passes record.level).map (.logged sink.format) }) :=
  rfl

theorem run_readText {path : FilePath} {contents : String}
    (held : session.directory.read path = .ok contents) :
    (readText path).run session = (.ok (Text.unifyLineEnds contents), session) := by
  rw [readText, run_bind_ok _ (run_get session), held]
  rfl

theorem run_pathExists (path : FilePath) (session : Session) :
    (pathExists path).run session =
      match session.directory.target path with
      | .file _ | .folder => (.ok true, session)
      | .unreachable .nameTooLong => (.error (.crash (.file .nameTooLong)), session)
      | .nothing | .unreachable _ => (.ok false, session) := by
  rw [pathExists, run_bind_ok _ (run_get session)]
  cases session.directory.target path with
  | file contents => rfl
  | folder => rfl
  | nothing => rfl
  | unreachable error => cases error <;> rfl

end Run

namespace Platform

variable {platform : Platform}

theorem run_say (platform : Platform) (message : String) (session : Session) :
    ∃ outcome after, (platform.say message).run session = (outcome, after) ∧
      after.directory = session.directory ∧ outcome ≠ .error (.exit 0) := by
  rw [say]
  split
  · exact ⟨_, _, rfl, rfl, by simp⟩
  · exact ⟨_, _, rfl, rfl, by simp⟩

/-- A failure is told and ends the command with another code than zero. -/
theorem run_fail (platform : Platform) (reason : String) (session : Session) :
    ∃ stop after, (platform.fail reason : Run α).run session = (.error stop, after) ∧
      after.directory = session.directory ∧ stop ≠ .exit 0 := by
  obtain ⟨outcome, after, said, same, notZero⟩ :=
    platform.run_say ("[red]Error:[/red] " ++ reason) session
  rw [fail]
  cases outcome with
  | error stop => exact ⟨stop, after, Run.run_bind_error _ said, same, fun zero => notZero (by rw [zero])⟩
  | ok value => exact ⟨.exit 1, after, Run.run_bind_ok _ said, same, by simp⟩

theorem say_directory (platform : Platform) (message : String) (session : Session) :
    ((platform.say message).run session).2.directory = session.directory := by
  obtain ⟨outcome, after, said, same, -⟩ := platform.run_say message session
  rw [said, same]

theorem run_encode {text : String} (encodes : platform.encodes text = true) (session : Session) :
    (platform.encode text).run session = (.ok (), session) := by
  rw [encode, if_pos encodes]
  rfl

theorem run_encode_error {text : String} (encodes : platform.encodes text = false) (session : Session) :
    (platform.encode text).run session = (.error (.crash .encoding), session) := by
  rw [encode, encodes]
  rfl

theorem run_put {text : String} (encodes : platform.encodes (platform.piped text) = true)
    (session : Session) :
    (platform.put text).run session =
      (.ok (), { session with output := session.output ++ platform.piped text }) := by
  rw [put, Run.run_bind_ok _ (run_encode encodes session)]
  rfl

theorem run_put_error {text : String} (encodes : platform.encodes (platform.piped text) = false)
    (session : Session) :
    (platform.put text).run session = (.error (.crash .encoding), session) := by
  rw [put, Run.run_bind_error _ (run_encode_error encodes session)]

theorem run_writeText {path : FilePath} {contents : String} {directory : Directory}
    (encodes : platform.encodes contents = true)
    (written : session.directory.write path contents = .ok directory) :
    (platform.writeText path contents).run session = (.ok (), { session with directory }) := by
  rw [writeText, Run.run_bind_ok _ (Run.run_get session), if_pos encodes, written]
  exact run_encode encodes _

theorem run_writeText_unencoded {path : FilePath} {contents : String} {directory : Directory}
    (encodes : platform.encodes contents = false)
    (opened : session.directory.write path "" = .ok directory) :
    (platform.writeText path contents).run session =
      (.error (.crash .encoding), { session with directory }) := by
  rw [writeText, Run.run_bind_ok _ (Run.run_get session), encodes, if_neg Bool.false_ne_true, opened]
  exact run_encode_error encodes _

theorem run_writeText_error {path : FilePath} {contents : String} {error : FileError}
    (failed : ∀ text, session.directory.write path text = .error error) :
    (platform.writeText path contents).run session = (.error (.crash (.file error)), session) := by
  rw [writeText, Run.run_bind_ok _ (Run.run_get session), failed]
  rfl

theorem run_loadPlan {path : FilePath} {contents : String} {plan : Plan}
    (held : session.directory.read path = .ok contents)
    (loaded : Plan.load platform.reader (Text.unifyLineEnds contents) = .ok plan) :
    (platform.loadPlan path).run session = (.ok plan, session) := by
  rw [loadPlan, Run.run_bind_ok _ (Run.run_readText held), loaded]
  rfl

theorem run_loadPlan_error {path : FilePath} {contents : String} {error : Document.LoadError}
    (held : session.directory.read path = .ok contents)
    (failed : Plan.load platform.reader (Text.unifyLineEnds contents) = .error error) :
    ∃ stop after, (platform.loadPlan path).run session = (.error stop, after) ∧
      after.directory = session.directory ∧ stop ≠ .exit 0 := by
  rw [loadPlan, Run.run_bind_ok _ (Run.run_readText held), failed]
  simp only []
  split
  · exact platform.run_fail error.message session
  · exact ⟨_, _, rfl, rfl, by simp⟩

end Platform

namespace Invocation

theorem run_loadSettings {invocation : Invocation} {settings : Settings}
    (accepted : Settings.load invocation.environment = .ok settings) (session : Session) :
    invocation.loadSettings.run session = (.ok settings, session) := by
  rw [loadSettings, accepted]
  rfl

/-- An invocation that stops has another exit code than zero, unless it stops with this code. -/
theorem exit_of_stop {invocation : Invocation} {command : Command} {stop : Stop} {after : Session}
    (named : invocation.command? = some command)
    (stopped : (invocation.perform command).run { directory := invocation.directory } = (.error stop, after)) :
    (invocation.run.exit = 0 ↔ stop = .exit 0) ∧ invocation.run.session = after := by
  rw [run]
  simp only [named, stopped]
  cases stop with
  | exit code => simp
  | crash crash => simp

theorem exit_of_done {invocation : Invocation} {command : Command} {after : Session}
    (named : invocation.command? = some command)
    (done : (invocation.perform command).run { directory := invocation.directory } = (.ok (), after)) :
    invocation.run.exit = 0 ∧ invocation.run.session = after := by
  rw [run]
  simp only [named, done, and_self]

theorem session_run {invocation : Invocation} {command : Command}
    (named : invocation.command? = some command) :
    invocation.run.session =
      ((invocation.perform command).run { directory := invocation.directory }).2 := by
  rw [run]
  simp only [named]
  split
  · next ran => rw [ran]
  · next ran => rw [ran]
  · next ran => rw [ran]

end Invocation

end LoadScript.CommandLine
