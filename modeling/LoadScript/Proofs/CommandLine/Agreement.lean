import LoadScript.Proofs.CommandLine.Directory
import LoadScript.Proofs.CommandLine.Runs
import LoadScript.Proofs.CommandLine.Standard
import LoadScript.Proofs.Compile.Functions
import LoadScript.Proofs.Compile.Totality
import LoadScript.Proofs.Json.LineEnds
import LoadScript.Proofs.Plan.Refusals
import LoadScript.Proofs.Service

/-!
The service and the command line compile alike. A document that both can take is compiled by the one exactly if it
is by the other, and the command pipes the page of the service to its output.
-/

namespace LoadScript.CommandLine

open Service (CompilesTo)

variable {settings : Settings} {file contents : String} {profile : Option String} {document : Json}

theorem orDefault_given (named : profile ≠ some "") (default : String) :
    orDefault profile default = profile.getD default := by
  cases profile with
  | none => rfl
  | some name => exact if_neg fun empty => named (by rw [empty])

/-! The command. -/

namespace Invocation

variable {invocation : Invocation}

theorem command?_compile {command : CompileCommand}
    (given : invocation.platform.parse invocation.arguments = some (.compile command))
    (held : invocation.directory.read (.ofText command.plan) = .ok contents) :
    invocation.command? = some (.compile command) := by
  simp [command?, given, Command.inputs, Directory.hasFile_of_read held]

/-- A plan without problems is compiled with no words about it: its script is the output. -/
theorem run_compile {plan : Plan} (accepted : Settings.load invocation.environment = .ok settings)
    (session : Session) (held : session.directory.read (.ofText file) = .ok contents)
    (loaded : Plan.load invocation.platform.reader (Text.unifyLineEnds contents) = .ok plan)
    (complete : plan.problems = []) :
    let job : Compile.Job := {
      plan, profile := orDefault profile settings.defaultProfile, generatedAt := invocation.now,
      scriptName := settings.scriptName }
    ∃ messages, (invocation.compile { plan := file, profile }).run session =
      match job.script.value with
      | .ok script => (invocation.platform.put script).run { session with messages }
      | .error number => (.error (.crash (.longNumber number)), { session with messages }) := by
  intro job
  rw [compile, Run.run_bind_ok _ (run_loadSettings accepted session),
    Run.run_bind_ok _ (Platform.run_loadPlan held loaded)]
  let sink := sinkOf false false .warning
  refine ⟨session.messages ++
    (job.script.records.filter fun record => sink.passes record.level).map (.logged sink.format), ?_⟩
  simp only [complete, List.forIn_nil, List.isEmpty_nil, Bool.not_true, Bool.and_false,
    Bool.false_eq_true, if_false, pure_bind, Option.map_none, Option.getD_none]
  rw [Run.run_bind_ok _ (Run.run_report sink job.script session)]
  cases job.script.value <;> rfl

theorem exit_of_load_error {error : Document.LoadError}
    (accepted : Settings.load invocation.environment = .ok settings)
    (given : invocation.platform.parse invocation.arguments = some (.compile { plan := file, profile }))
    (held : invocation.directory.read (.ofText file) = .ok contents)
    (failed : Plan.load invocation.platform.reader (Text.unifyLineEnds contents) = .error error) :
    invocation.run.exit ≠ 0 := by
  let session : Session := { directory := invocation.directory }
  have sameFiles : session.directory.read (.ofText file) = .ok contents := held
  obtain ⟨stop, after, stopped, -, notZero⟩ := Platform.run_loadPlan_error sameFiles failed
  have ran : (invocation.perform (.compile { plan := file, profile })).run session = (.error stop, after) := by
    rw [perform, compile, Run.run_bind_ok _ (run_loadSettings accepted session),
      Run.run_bind_error _ stopped]
  exact fun zero => notZero ((exit_of_stop (command?_compile given held) ran).1.mp zero)

/-- A command to compile a document succeeds exactly if it compiles to a script that can be encoded, and then it
pipes this script to the output. -/
theorem exit_of_document (invocation : Invocation) (conforms : invocation.platform.Conforms)
    (accepted : Settings.load invocation.environment = .ok settings)
    (given : invocation.platform.parse invocation.arguments = some (.compile { plan := file, profile }))
    (held : invocation.directory.read (.ofText file) = .ok contents) (named : profile ≠ some "")
    (read : Json.parse invocation.platform.reader (Text.unifyLineEnds contents) = .ok document)
    (complete : ∀ plan, Document.readPlan document = .ok plan → plan.problems = []) :
    (invocation.run.exit = 0 → ∃ script, CompilesTo settings profile invocation.now document script ∧
        invocation.platform.encodes script = true) ∧
      ∀ script, CompilesTo settings profile invocation.now document script →
        invocation.platform.encodes script = true →
          invocation.run.exit = 0 ∧ invocation.run.session.output = invocation.platform.piped script := by
  have loads := Plan.load_of_parse read
  cases planRead : Document.readPlan document with
  | error error =>
      rw [planRead] at loads
      refine ⟨fun zero => absurd zero (exit_of_load_error accepted given held loads), ?_⟩
      rintro script ⟨plan, loaded, -⟩
      cases planRead.symm.trans loaded
  | ok plan =>
      rw [planRead] at loads
      obtain ⟨messages, ran⟩ :=
        run_compile accepted { directory := invocation.directory } held loads (complete plan planRead)
      rw [orDefault_given named] at ran
      have command := command?_compile given held
      split at ran
      · next script written =>
          have compiles : CompilesTo settings profile invocation.now document script := ⟨plan, planRead, written⟩
          have codec := conforms.encodes_piped script
          cases encodes : invocation.platform.encodes script with
          | true =>
              rw [encodes] at codec
              rw [Platform.run_put codec] at ran
              obtain ⟨zero, after⟩ := exit_of_done command ran
              refine ⟨fun _ => ⟨script, compiles, encodes⟩, fun other otherCompiles _ => ?_⟩
              rw [otherCompiles.unique compiles, after]
              exact ⟨zero, String.empty_append⟩
          | false =>
              rw [encodes] at codec
              rw [Platform.run_put_error codec] at ran
              refine ⟨fun zero => ?_, fun other otherCompiles otherEncodes => ?_⟩
              · cases (exit_of_stop command ran).1.mp zero
              · rw [otherCompiles.unique compiles, encodes] at otherEncodes
                cases otherEncodes
      · next number unwritten =>
          refine ⟨fun zero => ?_, ?_⟩
          · cases (exit_of_stop command ran).1.mp zero
          · rintro script ⟨otherPlan, loaded, written⟩
            cases planRead.symm.trans loaded
            cases unwritten.symm.trans written

end Invocation

/-! Both. -/

/-- A document that has no problems as far as it can be loaded is compiled by the service exactly if the command
ends with the exit code zero on a file that holds it, and the output is then what the command pipes of the page. A body
that reaches the limit of the service is not compiled, nor is a text that goes beyond a limit of its reader. -/
theorem compile_agrees_with_service {platform : Platform} (conforms : platform.Conforms)
    {server : Service.Server} (serves : server.Conforms) (sameCodec : platform.encodes = server.encodes)
    {environment : Entries String} (accepted : Settings.load environment = .ok settings) {directory : Directory}
    (held : directory.read (.ofText file) = .ok contents) {arguments : List String}
    (given : platform.parse arguments = some (.compile { plan := file, profile })) (named : profile ≠ some "")
    (spelled : Json.Spells platform.reader.half contents document)
    {body : String} {members : Entries Json} (posted : Json.Spells server.reader.half body (.object members))
    (config : members.find? "config" = some document)
    (chosen : members.find? "profile" = profile.map .string)
    (complete : ∀ plan, Document.readPlan document = .ok plan → plan.problems = [])
    (input : String) (now : Moment) :
    let answer := (server.answer settings now ⟨"POST", "/compile", body⟩).value
    let outcome := Invocation.run { platform, arguments, input, environment, directory, now }
    (body.utf8ByteSize < Service.Server.bodyLimit → ¬ server.reader.Overruns body →
        ¬ platform.reader.Overruns (Text.unifyLineEnds contents) →
          ((∃ page, answer = .page page ∧ page.status = 200) ↔ outcome.exit = 0)) ∧
      (Service.Server.bodyLimit ≤ body.utf8ByteSize → answer = .bare 413) ∧
      (body.utf8ByteSize < Service.Server.bodyLimit → server.reader.Overruns body →
        ∃ excess, answer = .failed (.body excess)) ∧
      (platform.reader.Overruns (Text.unifyLineEnds contents) → outcome.exit ≠ 0) ∧
      ∀ page, answer = .page page → page.status = 200 → outcome.exit = 0 →
        outcome.session.output = platform.piped page.body ∧
          (Char.ofNat 0x1B ∉ page.body.toList → outcome.session.output = page.body) := by
  intro answer outcome
  have page_iff := Service.Server.answer_page serves settings now posted config named chosen
  have unified : Json.Spells platform.reader.half (Text.unifyLineEnds contents) document := by
    obtain ⟨dialect, same, read⟩ := spelled
    exact ⟨dialect, same, Json.parse_unifyLineEnds read⟩
  have stopped (beyond : platform.reader.Overruns (Text.unifyLineEnds contents)) : outcome.exit ≠ 0 := by
    obtain ⟨excess, broken⟩ := beyond
    exact Invocation.exit_of_load_error accepted given held (Plan.load_of_parse_error broken)
  have ended (within : ¬ platform.reader.Overruns (Text.unifyLineEnds contents)) :=
    Invocation.exit_of_document { platform, arguments, input, environment, directory, now } conforms accepted
      given held named ((Json.parse_of_spells unified).resolve_right within) complete
  refine ⟨fun small within fileWithin => ⟨?_, fun zero => ?_⟩, fun reached => ?_,
    Service.Server.answer_overrun serves settings now, stopped, ?_⟩
  · rintro ⟨page, isPage⟩
    obtain ⟨-, -, script, compiles, encodes, -⟩ := (page_iff page).mp isPage
    rw [← sameCodec] at encodes
    exact ((ended fileWithin).2 script compiles encodes).1
  · obtain ⟨script, compiles, encodes⟩ := (ended fileWithin).1 zero
    rw [sameCodec] at encodes
    exact ⟨_, (page_iff _).mpr ⟨small, within, script, compiles, encodes, rfl⟩⟩
  · simp only [answer, Service.Server.answer_compile_large serves settings now reached]
    rfl
  · intro page isPage ok zero
    obtain ⟨-, -, script, compiles, encodes, rfl⟩ := (page_iff page).mp ⟨isPage, ok⟩
    rw [← sameCodec] at encodes
    have piped := ((ended fun beyond => stopped beyond zero).2 script compiles encodes).2
    exact ⟨piped, fun noEscape => piped.trans (conforms.piped_plain script noEscape)⟩

/-! A title with a style sequence. -/

def redTitleDocument : Json :=
  .object [("testName", .string "\x1b[31mred"), ("apis", .array [.object []])]

def redTitlePlan : Plan := { name := "\x1b[31mred", requests := [{ name := "" }] }

def redTitleCall : Entries Json := [("config", redTitleDocument), ("profile", .string "dev")]

def redTitleDirectory : Directory := {
  files := [("plan.json", redTitleDocument.render (.indented 2))] }

def redTitleArguments : List String := ["compile", "plan.json", "--profile", "dev"]

def redTitleJob : Compile.Job := ⟨redTitlePlan, "dev", .ofEpoch 0, "script.js"⟩

theorem parse_redTitleDocument :
    Json.parse Json.Reader.standard (redTitleDocument.render (.indented 2)) = .ok redTitleDocument :=
  Json.parse_render _ (by simp [redTitleDocument, Json.IsReadable, Json.MembersReadable,
    Json.ItemsReadable, Json.Reader.standard])

theorem parse_redTitleCall :
    Json.parse Json.Reader.standard ((Json.object redTitleCall).render .oneLine) = .ok (.object redTitleCall) :=
  Json.parse_render _ (by simp [redTitleCall, redTitleDocument, Json.IsReadable, Json.MembersReadable,
    Json.ItemsReadable, Json.Reader.standard])

theorem readPlan_redTitleDocument : Document.readPlan redTitleDocument = .ok redTitlePlan :=
  Outcome.eq_ok_of_toOption (by rfl)

theorem complete_redTitleDocument (plan : Plan) (read : Document.readPlan redTitleDocument = .ok plan) :
    plan.problems = [] := by
  cases readPlan_redTitleDocument.symm.trans read
  decide

theorem small_redTitleCall :
    ((Json.object redTitleCall).render .oneLine).utf8ByteSize < Service.Server.bodyLimit := by decide +kernel

theorem read_redTitleDirectory :
    redTitleDirectory.read (.ofText "plan.json") = .ok (redTitleDocument.render (.indented 2)) := by
  have path : FilePath.ofText "plan.json" = ⟨false, ["plan.json"]⟩ := by decide
  have here : (FilePath.start ⟨false, ["plan.json"]⟩).enter "plan.json" = ⟨false, ["plan.json"]⟩ := by
    decide
  have text : FilePath.text ⟨false, ["plan.json"]⟩ = "plan.json" := by decide
  have short : ¬ Directory.pathLimit < (FilePath.text ⟨false, ["plan.json"]⟩).utf8ByteSize := by
    decide
  have shortName : ¬ Directory.nameLimit < "plan.json".utf8ByteSize := by decide
  rw [path, Directory.read, Directory.target, if_neg short, Directory.follow, if_neg shortName, here,
    Directory.targetAt, text, redTitleDirectory, Entries.find?, List.lookup_cons_self]

theorem load_noSettings : Settings.load [] = .ok {} := Outcome.eq_ok_of_toOption (by decide)

theorem parse_redTitleArguments : Platform.standard.parse redTitleArguments =
    some (.compile { plan := "plan.json", profile := some "dev" }) := by decide

theorem compile_agrees_with_service_redTitle :
    let body := (Json.object redTitleCall).render .oneLine
    let contents := redTitleDocument.render (.indented 2)
    let answer := (Service.Server.standard.answer {} (.ofEpoch 0) ⟨"POST", "/compile", body⟩).value
    let outcome := Invocation.run {
      platform := .standard, arguments := redTitleArguments, directory := redTitleDirectory, now := .ofEpoch 0 }
    Json.Spells Json.Reader.standard.half contents redTitleDocument ∧
      Json.Spells Json.Reader.standard.half body (.object redTitleCall) ∧
      ((∃ page, answer = .page page ∧ page.status = 200) ↔ outcome.exit = 0) ∧
      ∀ page, answer = .page page → page.status = 200 → outcome.exit = 0 →
        outcome.session.output = unstyled page.body := by
  have spelled : Json.Spells Json.Reader.standard.half (redTitleDocument.render (.indented 2)) redTitleDocument :=
    ⟨Json.Reader.standard, rfl, parse_redTitleDocument⟩
  have posted : Json.Spells Json.Reader.standard.half ((Json.object redTitleCall).render .oneLine)
      (.object redTitleCall) := ⟨Json.Reader.standard, rfl, parse_redTitleCall⟩
  have named : some "dev" ≠ some "" := by decide
  have agreed := compile_agrees_with_service Platform.standard_conforms Service.Server.standard_conforms rfl
    load_noSettings read_redTitleDirectory parse_redTitleArguments named spelled posted rfl rfl
    complete_redTitleDocument "" (.ofEpoch 0)
  have within := Json.Dialect.not_overruns parse_redTitleCall
  have fileWithin := Json.Dialect.not_overruns (Json.parse_unifyLineEnds parse_redTitleDocument)
  refine ⟨spelled, posted, agreed.1 small_redTitleCall within fileWithin, ?_⟩
  exact fun page isPage ok zero => (agreed.2.2.2.2 page isPage ok zero).1

theorem dropStyles_redTitle (rest : List Char) :
    dropStyles 0 ("/*\n * \x1b[31m".toList ++ rest) = "/*\n * ".toList ++ dropStyles 0 rest := by rfl

theorem standard_encodes (text : String) :
    Platform.standard.encodes text = text.toList.all (!Json.standsForHalf ·) := rfl

theorem standard_encodes_lines {lines : List String}
    (each : ∀ line ∈ lines, Platform.standard.encodes line = true) :
    Platform.standard.encodes (Script.endedLines lines) = true := by
  simp only [standard_encodes] at each ⊢
  induction lines with
  | nil => rfl
  | cons line rest ih =>
      rw [List.forall_mem_cons] at each
      have feed : "\n".toList.all (!Json.standsForHalf ·) = true := by decide
      simp only [Script.endedLines_cons, String.toList_append, List.all_append, each.1, feed, ih each.2,
        Bool.and_self]

def redTitleScript : String :=
  Script.endedLines (Script.bodyLines Script.standardUnit 0 redTitleJob.program.value)

theorem redTitleScript_encodes : Platform.standard.encodes redTitleScript = true := by
  refine standard_encodes_lines (List.all_eq_true.mp ?_)
  decide +kernel

theorem written_redTitleScript : redTitleJob.script.value = .ok redTitleScript := by
  have writable : Compile.optionsAreWritable redTitlePlan = true := by decide +kernel
  rw [redTitleJob.script_value, Script.render_eq]
  exact if_pos writable

theorem compilesTo_redTitleScript :
    CompilesTo {} (some "dev") (.ofEpoch 0) redTitleDocument redTitleScript :=
  ⟨redTitlePlan, readPlan_redTitleDocument, written_redTitleScript⟩

theorem redTitleScript_opening :
    ∃ rest, redTitleScript.toList = "/*\n * \x1b[31m".toList ++ rest := by
  let lines := Script.bodyLines Script.standardUnit 0 redTitleJob.program.value
  have title : lines.take 2 = ["/*", " * \x1b[31mred"] := by decide +kernel
  refine ⟨"red\n".toList ++ (Script.endedLines (lines.drop 2)).toList, ?_⟩
  have split : redTitleScript = Script.endedLines (lines.take 2 ++ lines.drop 2) := by
    rw [List.take_append_drop, redTitleScript]
  have opening : (Script.endedLines ["/*", " * \x1b[31mred"]).toList =
      "/*\n * \x1b[31m".toList ++ "red\n".toList := by decide +kernel
  rw [split, title, Script.endedLines_append, String.toList_append, opening, List.append_assoc]

theorem unstyled_redTitleScript : unstyled redTitleScript ≠ redTitleScript := by
  obtain ⟨rest, opening⟩ := redTitleScript_opening
  intro same
  have shorter := length_dropStyles_le 0 rest
  rw [← String.toList_inj, unstyled, String.toList_ofList, opening, dropStyles_redTitle] at same
  have lengths := congrArg List.length same
  rw [List.length_append, List.length_append] at lengths
  have long : "/*\n * \x1b[31m".toList.length = "/*\n * ".toList.length + 5 := by decide
  omega

theorem answer_redTitleCall :
    (Service.Server.standard.answer {} (.ofEpoch 0)
      ⟨"POST", "/compile", (Json.object redTitleCall).render .oneLine⟩).value =
        .page ⟨200, "text/javascript", redTitleScript⟩ := by
  have named : some "dev" ≠ some "" := by decide
  have config : redTitleCall.find? "config" = some redTitleDocument := rfl
  have chosen : redTitleCall.find? "profile" = (some "dev").map Json.string := rfl
  have posted : Json.parse Service.Server.standard.reader ((Json.object redTitleCall).render .oneLine) =
      .ok (.object redTitleCall) := parse_redTitleCall
  rw [Service.Server.answer_compile_small Service.Server.standard_conforms _ _ small_redTitleCall]
  refine ((Service.Server.answerCompile_page posted config named chosen _).mpr ?_).1
  exact ⟨redTitleScript, compilesTo_redTitleScript, redTitleScript_encodes, rfl⟩

/-- The page of the service has the title as it is, and the output of the command has lost its style. -/
theorem compile_drops_style :
    let body := (Json.object redTitleCall).render .oneLine
    let outcome := Invocation.run {
      platform := .standard, arguments := redTitleArguments, directory := redTitleDirectory, now := .ofEpoch 0 }
    redTitleDirectory.read (.ofText "plan.json") = .ok (redTitleDocument.render (.indented 2)) ∧
      Json.parse Json.Reader.standard (redTitleDocument.render (.indented 2)) = .ok redTitleDocument ∧
      Json.parse Json.Reader.standard body = .ok (.object redTitleCall) ∧
      Document.readPlan redTitleDocument = .ok redTitlePlan ∧ redTitlePlan.problems = [] ∧
      outcome.exit = 0 ∧
      ∃ page, (Service.Server.standard.answer {} (.ofEpoch 0) ⟨"POST", "/compile", body⟩).value = .page page ∧
        page.status = 200 ∧ outcome.session.output ≠ page.body := by
  have named : some "dev" ≠ some "" := by decide
  obtain ⟨-, compiled⟩ := Invocation.exit_of_document
    { platform := .standard, arguments := redTitleArguments, directory := redTitleDirectory, now := .ofEpoch 0 }
    Platform.standard_conforms load_noSettings parse_redTitleArguments read_redTitleDirectory named
    (Json.parse_unifyLineEnds parse_redTitleDocument) complete_redTitleDocument
  obtain ⟨zero, output⟩ := compiled redTitleScript compilesTo_redTitleScript redTitleScript_encodes
  refine ⟨read_redTitleDirectory, parse_redTitleDocument, parse_redTitleCall, readPlan_redTitleDocument,
    complete_redTitleDocument _ readPlan_redTitleDocument, zero, _, answer_redTitleCall, rfl, ?_⟩
  rw [output]
  exact unstyled_redTitleScript

end LoadScript.CommandLine
