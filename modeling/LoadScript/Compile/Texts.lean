import LoadScript.Compile.Assembly
import LoadScript.Script.Brackets
import Mathlib.Data.List.Forall2

/-!
The texts of a plan that stand in its script as they are, and plans that differ only in texts of literals and
comments.
-/

namespace LoadScript

open Script (AreNested IsVerbatim placeholders)

def Extraction.verbatimTexts (extraction : Extraction) : List String :=
  if extraction.isActive then
    extraction.savedAs :: if Text.startsWith extraction.path "$." then [] else [extraction.path]
  else []

def Request.verbatimTexts (request : Request) : List String :=
  request.checks.map Check.condition ++ request.extraction.verbatimTexts

def Plan.verbatimTexts (plan : Plan) : List String :=
  plan.requests.flatMap Request.verbatimTexts ++ plan.scenarios.map Scenario.name ++
    plan.profiles.flatMap fun profile => profile.2.map Variable.key

def Plan.HasPlainCode (plan : Plan) : Prop := ∀ text ∈ plan.verbatimTexts, IsVerbatim false text

def Plan.HasNestedCode (plan : Plan) : Prop := AreNested plan.verbatimTexts

def SamePlaceholders (first second : String) : Prop := placeholders first = placeholders second

def Credentials.text (credentials : Credentials) : String :=
  credentials.user ++ ":" ++ credentials.password

structure Header.AlikeInCode (first second : Header) : Prop where
  key : first.key = second.key
  value : SamePlaceholders first.value second.value

structure Request.AlikeInCode (first second : Request) : Prop where
  method : first.method = second.method
  url : first.url = second.url
  body : SamePlaceholders first.body second.body
  thinkTime : first.thinkTime = second.thinkTime
  authKind : first.authKind = second.authKind
  bearerToken : SamePlaceholders first.bearerToken second.bearerToken
  hasBearerToken : first.bearerToken = "" ↔ second.bearerToken = ""
  credentials : Option.Rel (fun one other => SamePlaceholders one.text other.text)
    first.credentials second.credentials
  headers : List.Forall₂ Header.AlikeInCode first.headers second.headers
  extraction : first.extraction = second.extraction
  checks : List.Forall₂ (fun one other => one.condition = other.condition) first.checks second.checks

structure Scenario.AlikeInCode (first second : Scenario) : Prop where
  name : first.name = second.name
  executor : first.executor = second.executor
  users : first.users = second.users
  selector : first.selector = second.selector

/-- Two plans that differ at most in texts of literals and comments: in the names of the test, of requests
and of checks, in bodies, in the values of headers and variables, in tokens and credentials, and in durations
and times of start. Texts that are resolved have the same placeholders. -/
structure Plan.AlikeInCode (first second : Plan) : Prop where
  baseUrl : first.baseUrl = second.baseUrl
  users : first.users = second.users
  loadKind : first.loadKind = second.loadKind
  executionMode : first.executionMode = second.executionMode
  stages : List.Forall₂ (fun one other => one.target = other.target) first.stages second.stages
  scenarios : List.Forall₂ Scenario.AlikeInCode first.scenarios second.scenarios
  scenariosEnabled : first.scenariosEnabled = second.scenariosEnabled
  profiles : List.Forall₂ (fun one other => one.1 = other.1 ∧
    List.Forall₂ (fun entry another => entry.key = another.key) one.2 other.2)
    first.profiles second.profiles
  thinkTime : first.thinkTime = second.thinkTime
  requests : List.Forall₂ Request.AlikeInCode first.requests second.requests
  thresholds : first.thresholds = second.thresholds
  targetUsers : first.targetUsers = second.targetUsers

end LoadScript
