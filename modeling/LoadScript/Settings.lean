import LoadScript.Entries
import LoadScript.Text.Quoted
import LoadScript.Text.WholeNumber

/-!
Settings of the program, taken from the environment.
-/

namespace LoadScript

structure Settings where
  defaultProfile : String := "dev"
  scriptName : String := "script.js"
  host : String := "127.0.0.1"
  port : Int := 8080
deriving DecidableEq, Repr

inductive SettingsError where
  | emptyProfile
  | emptyScriptName
  | portNotNumber (given : String)
  | portOutOfRange (given : Int)
deriving DecidableEq, Repr

def SettingsError.message : SettingsError → String
  | .emptyProfile => "K6FORGE_PROFILE must not be empty"
  | .emptyScriptName => "K6FORGE_SCRIPT_NAME must not be empty"
  | .portNotNumber given => "K6FORGE_PORT must be an integer, got: " ++ Text.quoted given
  | .portOutOfRange given =>
      "K6FORGE_PORT must be between 1 and 65535, got: " ++ toString given

namespace Settings

def isPort (port : Int) : Bool := 1 ≤ port && port ≤ 65535

def readPort (text : String) : Except SettingsError Int :=
  match Text.wholeNumber? text with
  | none => .error (.portNotNumber text)
  | some port => if isPort port then .ok port else .error (.portOutOfRange port)

def variableNames : List String :=
  ["K6FORGE_PROFILE", "K6FORGE_SCRIPT_NAME", "K6FORGE_HOST", "K6FORGE_PORT"]

def load (environment : Entries String) : Except SettingsError Settings := do
  let get (name default : String) : String := (environment.find? name).getD default
  let profile := Text.trim (get "K6FORGE_PROFILE" "dev")
  if profile = "" then throw .emptyProfile
  let scriptName := Text.trim (get "K6FORGE_SCRIPT_NAME" "script.js")
  if scriptName = "" then throw .emptyScriptName
  let port ← readPort (get "K6FORGE_PORT" "8080")
  pure {
    defaultProfile := profile
    scriptName
    host := get "K6FORGE_HOST" "127.0.0.1"
    port }

end Settings

end LoadScript
