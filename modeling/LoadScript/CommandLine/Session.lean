import LoadScript.CommandLine.Directory
import LoadScript.CommandLine.Platform
import LoadScript.Log.Format
import LoadScript.Plan.Field
import LoadScript.Text.Lines

/-!
What a command does as it runs: it writes to its two outputs and to the directory, and it may stop.
-/

namespace LoadScript.CommandLine

inductive Message where
  | text (value : String)
  | logged (format : Log.Format) (record : Log.Record)
deriving DecidableEq, Repr

def Message.render (time : Log.Format → String) : Message → String
  | .text value => value
  | .logged format record => format.line (time format) record none ++ "\n"

inductive Crash where
  | document (error : Document.LoadError)
  | longNumber (number : LongNumber)
  | file (error : FileError)
  | console (reason : String)
  | encoding
deriving DecidableEq, Repr

def Crash.message : Crash → String
  | .document error => error.message
  | .longNumber number => number.message
  | .file error => error.message
  | .console reason => reason
  | .encoding => "surrogates not allowed"

inductive Stop where
  | exit (code : Nat)
  | crash (crash : Crash)
deriving DecidableEq, Repr

structure Session where
  directory : Directory
  output : String := ""
  messages : List Message := []
  served : Option (String × Int) := none

abbrev Run (α : Type) := ExceptT Stop (StateM Session) α

namespace Run

def stop {α : Type} (code : Nat) : Run α := throw (.exit code)

def crash {α : Type} (error : Crash) : Run α := throw (.crash error)

def send (messages : List Message) : Run Unit :=
  modify fun session => { session with messages := session.messages ++ messages }

def report {α : Type} (sink : Log.Sink) (result : Logged α) : Run α := do
  send ((result.records.filter fun record => sink.passes record.level).map (.logged sink.format))
  pure result.value

def readText (path : FilePath) : Run String := do
  match (← get).directory.read path with
  | .ok contents => pure (Text.unifyLineEnds contents)
  | .error error => crash (.file error)

def pathExists (path : FilePath) : Run Bool := do
  match (← get).directory.target path with
  | .file _ | .folder => pure true
  | .unreachable .nameTooLong => crash (.file .nameTooLong)
  | .nothing | .unreachable _ => pure false

end Run

namespace Platform

variable {α : Type} (platform : Platform)

def say (message : String) : Run Unit :=
  match platform.shown message with
  | .ok text => Run.send [.text (text ++ "\n")]
  | .error reason => Run.crash (.console reason)

def sayPanel (message : String) : Run Unit :=
  match platform.panelled message with
  | .ok text => Run.send [.text text]
  | .error reason => Run.crash (.console reason)

def fail (reason : String) : Run α := do
  platform.say ("[red]Error:[/red] " ++ reason)
  Run.stop 1

def encode (text : String) : Run Unit :=
  if platform.encodes text then pure () else Run.crash .encoding

def put (text : String) : Run Unit := do
  platform.encode (platform.piped text)
  modify fun session => { session with output := session.output ++ platform.piped text }

/-- Writes a file. It is opened before its text is encoded, and stays empty if the text cannot be. -/
def writeText (path : FilePath) (contents : String) : Run Unit := do
  match (← get).directory.write path (if platform.encodes contents then contents else "") with
  | .ok directory =>
      modify fun session => { session with directory }
      platform.encode contents
  | .error error => Run.crash (.file error)

end Platform

end LoadScript.CommandLine
