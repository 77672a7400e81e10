import LoadScript.CommandLine.Command
import LoadScript.CommandLine.Session
import LoadScript.Compile.Assembly
import LoadScript.Curl.Import
import LoadScript.Plan.Reader
import LoadScript.Plan.Sample
import LoadScript.Plan.Writer
import LoadScript.Settings

/-!
The program: what its commands do with the directory, the environment and the input.
-/

namespace LoadScript.CommandLine

def Platform.loadPlan (platform : Platform) (path : FilePath) : Run Plan := do
  match Plan.load platform.reader (← Run.readText path) with
  | .ok plan => pure plan
  | .error error =>
      if error.isRefusal then platform.fail error.message else Run.crash (.document error)

def sinkOf (verbose jsonLog : Bool) (quietest : Log.Level) : Log.Sink :=
  { level := if verbose then .debug else quietest
    format := if jsonLog then .json else .plain }

def orDefault (given : Option String) (default : String) : String :=
  match given with
  | some text => if text = "" then default else text
  | none => default

def summary (job : Compile.Job) (shape : Compile.LoadShape) : String :=
  "[bold]Test:[/bold]     " ++ job.plan.name ++ "\n" ++
    "[bold]Profile:[/bold]  " ++ job.profile ++ "\n" ++
    "[bold]Load:[/bold]     " ++ shape.describe ++ "\n" ++
    "[bold]Requests:[/bold] " ++ toString job.plan.requests.length

def Platform.planToExtend (platform : Platform) (path : FilePath) : Run Plan := do
  if ← Run.pathExists path then platform.loadPlan path else pure {}

def relabelled (command : ImportCommand) (request : Request) : Request :=
  { request with
    name := orDefault command.name request.name
    checks :=
      if command.addsCheck then request.checks ++ [Sample.statusCheck] else request.checks }

def titleOf (name : String) : String :=
  Text.title (String.ofList (name.toList.map fun character =>
    if character = '_' || character = '-' then ' ' else character))

def Platform.init (platform : Platform) (name : String) : Run Unit := do
  let fileName := Command.planFileName name
  let path := FilePath.ofText fileName
  if ← Run.pathExists path then
    platform.say ("[red]File already exists:[/red] " ++ fileName)
    Run.stop 1
  let plan := { Sample.plan with name := titleOf name }
  platform.writeText path (plan.save 2)
  platform.say ("[green]Created config:[/green] " ++ fileName)
  platform.say ("Compile with: k6forge compile " ++ fileName ++ " -o script.js")

structure Invocation where
  platform : Platform
  arguments : List String
  input : String := ""
  environment : Entries String := []
  directory : Directory := {}
  now : Moment

namespace Invocation

def loadSettings (invocation : Invocation) : Run Settings :=
  match Settings.load invocation.environment with
  | .ok settings => pure settings
  | .error error => invocation.platform.fail error.message

def compile (invocation : Invocation) (command : CompileCommand) : Run Unit := do
  let sink := sinkOf command.verbose command.jsonLog .warning
  let settings ← invocation.loadSettings
  let plan ← invocation.platform.loadPlan (.ofText command.plan)
  let problems := plan.problems
  for problem in problems do
    invocation.platform.say ("[yellow]Warning:[/yellow] " ++ problem)
  if command.strict && !problems.isEmpty then Run.stop 1
  let output := command.output.map FilePath.ofText
  let job : Compile.Job := {
    plan
    profile := orDefault command.profile settings.defaultProfile
    generatedAt := invocation.now
    scriptName := (output.map FilePath.fileName).getD settings.scriptName }
  let script ← match ← Run.report sink job.script with
    | .ok script => pure script
    | .error number => Run.crash (.longNumber number)
  match output with
  | none => invocation.platform.put script
  | some path =>
      invocation.platform.writeText path script
      let shape ← Run.report sink (Compile.loadShape plan)
      invocation.platform.sayPanel (summary job shape)
      invocation.platform.say ("[green]Wrote script:[/green] " ++ path.text)

def readCurl (invocation : Invocation) (command : ImportCommand) : Run String :=
  match command.command, command.file with
  | some text, _ => pure text
  | none, some file => Run.readText (.ofText file)
  | none, none => pure (Text.unifyLineEnds invocation.input)

def importCurl (invocation : Invocation) (command : ImportCommand) : Run Unit := do
  let text ← invocation.readCurl command
  let imported ← match Curl.importRequest text with
    | .ok request => pure request.value
    | .error error => invocation.platform.fail error.message
  let request := relabelled command imported
  match command.plan.map FilePath.ofText with
  | none => invocation.platform.put (request.save 2 ++ "\n")
  | some path =>
      let plan ← invocation.platform.planToExtend path
      let plan := { plan with requests := plan.requests ++ [request] }
      invocation.platform.writeText path (plan.save 2)
      invocation.platform.say ("[green]Added request #" ++ toString plan.requests.length ++ ":[/green] " ++
        request.method.name ++ " " ++ request.url ++ " -> " ++ path.text)

def serve (invocation : Invocation) (command : ServeCommand) : Run Unit := do
  let settings ← invocation.loadSettings
  let host := orDefault command.host settings.host
  let port := command.port.getD settings.port
  invocation.platform.say ("[cyan]k6forge service listening on[/cyan] http://" ++ host ++ ":" ++ toString port)
  modify fun session => { session with served := some (host, port) }

def perform (invocation : Invocation) : Command → Run Unit
  | .version => invocation.platform.put "k6forge 0.1.0\n"
  | .help => invocation.platform.put invocation.platform.help
  | .compile command => invocation.compile command
  | .importCurl command => invocation.importCurl command
  | .init name => invocation.platform.init name
  | .serve command => invocation.serve command

structure Outcome where
  exit : Nat
  session : Session
  crash : Option Crash := none

def command? (invocation : Invocation) : Option Command :=
  (invocation.platform.parse invocation.arguments).filter fun command =>
    command.inputs.all invocation.directory.hasFile

def run (invocation : Invocation) : Outcome :=
  let start : Session := { directory := invocation.directory }
  match invocation.command? with
  | none => { exit := 2, session := start }
  | some command =>
      match (invocation.perform command).run start with
      | (.ok (), session) => { exit := 0, session }
      | (.error (.exit code), session) => { exit := code, session }
      | (.error (.crash crash), session) => { exit := 1, session, crash := some crash }

end Invocation

end LoadScript.CommandLine
