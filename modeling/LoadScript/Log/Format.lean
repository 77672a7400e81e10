import LoadScript.Json.Printer
import LoadScript.Log.Record
import LoadScript.Log.Time

/-!
How log records are written: as plain lines, or each as one JSON object on a line.
-/

namespace LoadScript.Log

inductive Format where
  | plain
  | json
deriving DecidableEq, Repr

structure Cause where
  kind : String
  message : String
deriving DecidableEq, Repr

def Cause.text (cause : Cause) : String :=
  if cause.message = "" then cause.kind else cause.kind ++ ": " ++ cause.message

def Format.timeText (format : Format) (time : Time) : Except TimeError String :=
  match format with
  | .plain => time.plainText
  | .json => time.exactText

def padEnd (width : Nat) (text : String) : String :=
  text ++ String.ofList (List.replicate (width - text.length) ' ')

def plainLine (time : String) (record : Record) (cause : Option Cause) : String :=
  let line := time ++ " [" ++ padEnd 8 record.level.name ++ "] " ++ record.channel ++ ": " ++
    record.message
  match cause with
  | none => line
  | some cause =>
      line ++ (if line.toList.getLast? = some '\n' then "" else "\n") ++ cause.text

def jsonFields (time : String) (record : Record) (cause : Option Cause) : Entries Json :=
  [ ("time", .string time), ("level", .string record.level.name),
    ("logger", .string record.channel), ("msg", .string record.message)] ++
    match cause with
    | none => []
    | some cause => [("exc", .string cause.text)]

def jsonLine (time : String) (record : Record) (cause : Option Cause) : String :=
  (Json.object (jsonFields time record cause)).render ⟨none, true⟩

def Format.line (format : Format) (time : String) (record : Record) (cause : Option Cause) : String :=
  match format with
  | .plain => plainLine time record cause
  | .json => jsonLine time record cause

def Format.text (format : Format) (time : Time) (record : Record) (cause : Option Cause) :
    Except TimeError String := do
  pure (format.line (← format.timeText time) record cause)

structure Sink where
  level : Level
  format : Format
deriving DecidableEq, Repr

/-- The least severity that passes. A level of zero leaves it at that of warnings. -/
def Sink.least (sink : Sink) : Int :=
  if sink.level.severity = 0 then Level.warning.severity else sink.level.severity

def Sink.passes (sink : Sink) (level : Level) : Bool :=
  0 < level.severity && sink.least ≤ level.severity

def written (sink : Option Sink) (time : String) (record : Record) : String :=
  match sink with
  | some sink =>
      if sink.passes record.level then sink.format.line time record none ++ "\n" else ""
  | none => if Level.warning.severity ≤ record.level.severity then record.message ++ "\n" else ""

end LoadScript.Log
