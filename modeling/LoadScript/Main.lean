import LoadScript.CommandLine.Program
import LoadScript.CommandLine.Standard
import Std.Time.DateTime.Timestamp

/-!
The command line. It takes the arguments, the environment, the clock and the files that a command names,
runs the program on them, and carries out what came of it. Serving ends with the announcement: the answers
of the service are in the library, and no socket is opened.
-/

namespace LoadScript.CommandLine

def textAt? (path : String) : IO (Option String) := do
  match ← (IO.FS.readFile path).toBaseIO with
  | .ok text => pure (some text)
  | .error _ => pure none

def isFolderAt (path : String) : IO Bool := do
  match ← (IO.FS.Handle.mk (path ++ "/.") .read).toBaseIO with
  | .ok _ => pure true
  | .error _ => pure false

def surveyPath (directory : Directory) (path : FilePath) : IO Directory := do
  if ← isFolderAt path.text then
    pure { directory with folders := path.text :: directory.folders }
  else
    match ← textAt? path.text with
    | some text => pure { directory with files := directory.files.put path.text text }
    | none => pure directory

def survey (paths : List String) : IO Directory :=
  (paths.flatMap fun text => (FilePath.ofText text).steps.map FilePath.resolve).foldlM surveyPath {}

def settingsEnvironment : IO (Entries String) :=
  Settings.variableNames.filterMapM fun name => do
    pure ((← IO.getEnv name).map (name, ·))

def currentTime : IO Int := do
  pure (← Std.Time.Timestamp.now).toNanosecondsSinceUnixEpoch.val

def nanosecondsPerSecond : Nat := 1000000000

def shownTime (nanoseconds : Int) (format : Log.Format) : String :=
  let seconds := Double.ofUnits (nanoseconds < 0) (nanoseconds.natAbs * Double.unitsPerOne)
    nanosecondsPerSecond
  match format.timeText (.real seconds) with
  | .ok text => text
  | .error error => error.message

def readInput (command : Option Command) : IO String := do
  if (command.map Command.readsInput).getD false then (← IO.getStdin).readToEnd else pure ""

def carryOut (outcome : Invocation.Outcome) (before : Directory) (time : Int) : IO Unit := do
  for message in outcome.session.messages do
    IO.eprint (message.render (shownTime time))
  IO.print outcome.session.output
  for (path, text) in before.changes outcome.session.directory do
    IO.FS.writeFile path text
  if let some crash := outcome.crash then IO.eprintln crash.message
  if outcome.exit = 2 then IO.eprintln "The arguments name no command with all its files."

def start (arguments : List String) : IO UInt32 := do
  let platform := Platform.standard
  let command := platform.parse arguments
  let directory ← survey ((command.map Command.paths).getD [])
  let input ← readInput command
  let environment ← settingsEnvironment
  let time ← currentTime
  let outcome := Invocation.run {
    platform, arguments, input, environment, directory
    now := .ofEpoch (time.fdiv nanosecondsPerSecond) }
  carryOut outcome directory time
  pure outcome.exit.toUInt32

end LoadScript.CommandLine

def main (arguments : List String) : IO UInt32 :=
  LoadScript.CommandLine.start arguments
