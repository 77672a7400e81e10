import LoadScript.Compile.Assembly
import LoadScript.Curl.Import
import LoadScript.Plan.Reader
import LoadScript.Plan.Writer
import LoadScript.Service.Server
import LoadScript.Settings

/-!
The HTTP service: it compiles plans and imports commands. Each request is answered by itself.
-/

namespace LoadScript.Service

def serviceChannel : String := Log.channel "service.app"

structure Page where
  status : Nat
  contentType : String
  body : String
deriving DecidableEq, Repr

inductive Refusal where
  | badSyntax (error : Json.SyntaxError)
  | notObject
  | profileNotText
  | commandNotText
  | overrun (overrun : Json.Overrun)
  | badPlan (error : Document.LoadError)
  | badCommand (error : Curl.ImportError)
deriving DecidableEq, Repr

def Refusal.message : Refusal → String
  | .badSyntax error => "Request body is not valid JSON: " ++ error.message
  | .notObject => "Request body must be a JSON object"
  | .profileNotText => "Field 'profile' must be a string"
  | .commandNotText => "Field 'command' must be a string"
  | .overrun excess => excess.message
  | .badPlan error => error.message
  | .badCommand error => error.message

inductive Failure where
  | target (reason : String)
  | body (overrun : Json.Overrun)
  | plan (error : Document.LoadError)
  | script (number : LongNumber)
  | encoding
deriving DecidableEq, Repr

def Failure.message : Failure → String
  | .target reason => reason
  | .body overrun => overrun.message
  | .plan error => error.message
  | .script number => number.message
  | .encoding => "surrogates not allowed"

def Refusal.failure? : Refusal → Option Failure
  | .overrun excess => some (.body excess)
  | .badPlan error => if error.isRefusal then none else some (.plan error)
  | .badSyntax _ | .notObject | .profileNotText | .commandNotText | .badCommand _ => none

inductive Answer where
  | page (page : Page)
  | bare (status : Nat)
  | failed (failure : Failure)
deriving DecidableEq, Repr

def jsonPage (status : Nat) (document : Json) : Page :=
  ⟨status, "application/json", document.render .oneLine⟩

def readBody (reader : Json.Reader) (body : String) : Except Refusal (Entries Json) :=
  match Json.parse reader body with
  | .ok (.object members) => .ok members
  | .ok _ => .error .notObject
  | .error (.badSyntax error) => .error (.badSyntax error)
  | .error (.overrun overrun) => .error (.overrun overrun)

def profileOf (settings : Settings) (members : Entries Json) : Except Refusal String :=
  match (members.find? "profile").getD .null with
  | .string profile => .ok (if profile = "" then settings.defaultProfile else profile)
  | other => if other.isVoid then .ok settings.defaultProfile else .error .profileNotText

def compileJob (reader : Json.Reader) (settings : Settings) (now : Moment) (body : String) :
    Except Refusal Compile.Job := do
  let members ← readBody reader body
  let profile ← profileOf settings members
  let plan ← (Document.readPlan ((members.find? "config").getD .null)).mapError .badPlan
  pure { plan, profile, generatedAt := now, scriptName := settings.scriptName }

def importedRequest (reader : Json.Reader) (body : String) : Except Refusal (Logged Request) := do
  let members ← readBody reader body
  match (members.find? "command").getD (.string "") with
  | .string command => (Curl.importRequest command).mapError .badCommand
  | _ => throw .commandNotText

namespace Server

variable (server : Server)

def refuse (call : Call) (refusal : Refusal) : Logged Answer :=
  match refusal.failure? with
  | some failure => pure (.failed failure)
  | none => do
      Logged.record .info serviceChannel
        ("Rejected " ++ server.methodName call ++ " " ++ server.path call ++ ": " ++ refusal.message)
      pure (.page (jsonPage 400 (.object [("error", .string refusal.message)])))

def answerCompile (settings : Settings) (now : Moment) (call : Call) (body : String) : Logged Answer :=
  match compileJob server.reader settings now body with
  | .error refusal => server.refuse call refusal
  | .ok job => do
      match ← job.script with
      | .ok script =>
          pure (if server.encodes script then .page ⟨200, "text/javascript", script⟩ else .failed .encoding)
      | .error number => pure (.failed (.script number))

def answerImport (call : Call) (body : String) : Logged Answer :=
  match importedRequest server.reader body with
  | .error refusal => server.refuse call refusal
  | .ok request => do
      let request ← request
      pure (.page (jsonPage 200 request.toJson))

def answerBody (call : Call) (handle : String → Logged Answer) : Logged Answer :=
  match server.text call with
  | .ok body => handle body
  | .error status => pure (.bare status)

def answer (settings : Settings) (now : Moment) (call : Call) : Logged Answer :=
  match server.receive routes call with
  | .failed reason => pure (.failed (.target reason))
  | .answered status => pure (.bare status)
  | .handled .health => pure (.page (jsonPage 200 (.object [("status", .string "ok")])))
  | .handled .compile => server.answerBody call (server.answerCompile settings now call)
  | .handled .importCurl => server.answerBody call (server.answerImport call)

end Server

end LoadScript.Service
