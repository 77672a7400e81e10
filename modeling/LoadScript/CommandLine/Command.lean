import LoadScript.Text.Alphanumeric
import LoadScript.Text.Case

/-!
The commands of the program.
-/

namespace LoadScript.CommandLine

structure CompileCommand where
  plan : String
  profile : Option String := none
  output : Option String := none
  strict : Bool := false
  verbose : Bool := false
  jsonLog : Bool := false
deriving DecidableEq, Repr

structure ImportCommand where
  command : Option String := none
  file : Option String := none
  plan : Option String := none
  name : Option String := none
  addsCheck : Bool := true
deriving DecidableEq, Repr

structure ServeCommand where
  host : Option String := none
  port : Option Int := none
  verbose : Bool := false
  jsonLog : Bool := false
deriving DecidableEq, Repr

inductive Command where
  | version
  | help
  | compile (command : CompileCommand)
  | importCurl (command : ImportCommand)
  | init (name : String)
  | serve (command : ServeCommand)
deriving DecidableEq, Repr

namespace Command

def planFileName (name : String) : String :=
  let safe := Text.lower (String.ofList (name.toList.map fun character =>
    if Text.isWordCharacter character then character else '_'))
  (if safe = "" then "k6_test" else safe) ++ ".json"

def inputs : Command → List String
  | .compile command => [command.plan]
  | .importCurl command => command.file.toList
  | .version | .help | .init _ | .serve _ => []

def readsInput : Command → Bool
  | .importCurl command => command.command.isNone && command.file.isNone
  | .version | .help | .compile _ | .init _ | .serve _ => false

def paths : Command → List String
  | .compile command => command.plan :: command.output.toList
  | .importCurl command => command.file.toList ++ command.plan.toList
  | .init name => [planFileName name]
  | .version | .help | .serve _ => []

end Command

end LoadScript.CommandLine
