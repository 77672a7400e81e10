import LoadScript.CommandLine.Command
import LoadScript.CommandLine.Directory
import LoadScript.CommandLine.Options
import LoadScript.Settings
import LoadScript.Text.PlainNumber

/-!
How arguments name a command, by the options that each command declares.
-/

namespace LoadScript.CommandLine

namespace Command

def helpOption : OptionSpec := ⟨"help", ["--help"], .sets true⟩

def verboseOption : OptionSpec := ⟨"verbose", ["--verbose", "-v"], .sets true⟩

def jsonLogOption : OptionSpec := ⟨"log-json", ["--log-json"], .sets true⟩

def programOptions : List OptionSpec :=
  [⟨"version", ["--version", "-V"], .sets true⟩, helpOption]

def compileOptions : List OptionSpec := [
  ⟨"profile", ["--profile", "-p"], .takesValue⟩, ⟨"output", ["--output", "-o"], .takesValue⟩,
  ⟨"strict", ["--strict"], .sets true⟩, verboseOption, jsonLogOption, helpOption]

def importOptions : List OptionSpec := [
  ⟨"file", ["--file", "-f"], .takesValue⟩, ⟨"config", ["--config", "-c"], .takesValue⟩,
  ⟨"name", ["--name", "-n"], .takesValue⟩, ⟨"check", ["--check"], .sets true⟩,
  ⟨"check", ["--no-check"], .sets false⟩, helpOption]

def initOptions : List OptionSpec := [helpOption]

def serveOptions : List OptionSpec := [
  ⟨"host", ["--host"], .takesValue⟩, ⟨"port", ["--port", "-p"], .takesValue⟩,
  verboseOption, jsonLogOption, helpOption]

def isOn (arguments : Arguments) (key : String) (default : Bool) : Bool :=
  (arguments.switches.find? key).getD default

def compileOf? (arguments : Arguments) : Option Command :=
  match arguments.operands with
  | [plan] =>
      some (.compile {
        plan
        profile := arguments.values.find? "profile"
        output := arguments.values.find? "output"
        strict := isOn arguments "strict" false
        verbose := isOn arguments "verbose" false
        jsonLog := isOn arguments "log-json" false })
  | _ => none

def importOf? (arguments : Arguments) : Option Command := do
  let command ← match arguments.operands with
    | [] => pure none
    | [command] => pure (some command)
    | _ => none
  pure (.importCurl {
    command
    file := arguments.values.find? "file"
    plan := arguments.values.find? "config"
    name := arguments.values.find? "name"
    addsCheck := isOn arguments "check" true })

def initOf? (arguments : Arguments) : Option Command :=
  match arguments.operands with
  | [] => some (.init "k6_test")
  | [name] => some (.init name)
  | _ => none

def port? (text : String) : Option Int :=
  (Text.plainNumber? text).bind fun port =>
    if Settings.isPort port then some (Int.ofNat port) else none

def serveOf? (arguments : Arguments) : Option Command := do
  let port ← match arguments.values.find? "port" with
    | none => pure none
    | some text => (port? text).map some
  if arguments.operands.isEmpty then
    pure (.serve {
      host := arguments.values.find? "host"
      port
      verbose := isOn arguments "verbose" false
      jsonLog := isOn arguments "log-json" false })
  else none

def readCommand? (options : List OptionSpec) (command? : Arguments → Option Command)
    (rest : List String) : Option Command := do
  let arguments ← read options false rest
  if isOn arguments "help" false then pure .help else command? arguments

def hasPathTexts (command : Command) : Bool := command.paths.all FilePath.isPathText

def named? (arguments : List String) : Option Command := do
  let program ← read programOptions true arguments
  match program.switches with
  | ("version", _) :: _ => pure .version
  | _ :: _ => pure .help
  | [] =>
      match program.operands with
      | "compile" :: rest => readCommand? compileOptions compileOf? rest
      | "import-curl" :: rest => readCommand? importOptions importOf? rest
      | "init" :: rest => readCommand? initOptions initOf? rest
      | "serve" :: rest => readCommand? serveOptions serveOf? rest
      | _ => none

def ofArguments? (arguments : List String) : Option Command :=
  (named? arguments).filter hasPathTexts

end Command

end LoadScript.CommandLine
