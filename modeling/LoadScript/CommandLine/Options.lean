import LoadScript.Entries
import LoadScript.Text.Split

/-!
Splitting the arguments of a command into options and operands.
-/

namespace LoadScript.CommandLine

inductive OptionKind where
  | takesValue
  | sets (value : Bool)
deriving DecidableEq, Repr

structure OptionSpec where
  key : String
  names : List String
  kind : OptionKind
deriving DecidableEq, Repr

structure Arguments where
  values : Entries String := []
  switches : Entries Bool := []
  operands : List String := []
deriving DecidableEq, Repr

def findOption? (specs : List OptionSpec) (name : String) : Option OptionSpec :=
  specs.find? fun spec => spec.names.contains name

def splitAssignment (argument : String) : String × Option String :=
  match Text.cut? '=' argument.toList with
  | some (name, value) => (String.ofList name, some (String.ofList value))
  | none => (argument, none)

abbrev Progress := Arguments × List String

def applyOption (spec : OptionSpec) (attached : Option String) (arguments : Arguments)
    (rest : List String) : Option Progress :=
  match spec.kind, attached, rest with
  | .takesValue, some value, _ =>
      some ({ arguments with values := arguments.values.put spec.key value }, rest)
  | .takesValue, none, value :: rest =>
      some ({ arguments with values := arguments.values.put spec.key value }, rest)
  | .takesValue, none, [] => none
  | .sets value, none, _ =>
      some ({ arguments with switches := arguments.switches.put spec.key value }, rest)
  | .sets _, some _, _ => none

def applyCluster (specs : List OptionSpec) (arguments : Arguments) (rest : List String) :
    List Char → Option Progress
  | [] => some (arguments, rest)
  | letter :: letters => do
      let spec ← findOption? specs (String.ofList ['-', letter])
      match spec.kind with
      | .takesValue =>
          applyOption spec (if letters.isEmpty then none else some (String.ofList letters))
            arguments rest
      | .sets _ =>
          let (arguments, rest) ← applyOption spec none arguments rest
          applyCluster specs arguments rest letters

def applyDashed (specs : List OptionSpec) (argument : String) (arguments : Arguments)
    (rest : List String) : Option Progress :=
  if Text.startsWith argument "--" then do
    let (name, attached) := splitAssignment argument
    applyOption (← findOption? specs name) attached arguments rest
  else applyCluster specs arguments rest (argument.toList.drop 1)

def isDashed (argument : String) : Bool :=
  argument != "-" && Text.startsWith argument "-"

/-- Reads arguments until nothing is left; none if they do not fit the options. Two dashes alone end the
options. If operands end them too, the first operand and all that follows it are operands. Each step uses
up an argument and one unit of fuel. -/
def readFrom (specs : List OptionSpec) (operandsEnd : Bool) :
    (fuel : Nat) → Arguments → List String → Option Arguments
  | _, arguments, [] => some arguments
  | 0, _, _ => none
  | fuel + 1, arguments, argument :: rest =>
      if argument = "--" then some { arguments with operands := arguments.operands ++ rest }
      else if isDashed argument then do
        let (arguments, rest) ← applyDashed specs argument arguments rest
        readFrom specs operandsEnd fuel arguments rest
      else if operandsEnd then
        some { arguments with operands := arguments.operands ++ argument :: rest }
      else
        readFrom specs operandsEnd fuel
          { arguments with operands := arguments.operands ++ [argument] } rest

def read (specs : List OptionSpec) (operandsEnd : Bool) (arguments : List String) :
    Option Arguments :=
  readFrom specs operandsEnd arguments.length {} arguments

end LoadScript.CommandLine
