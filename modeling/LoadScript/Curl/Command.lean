import LoadScript.Curl.Tokens
import LoadScript.Curl.Import

/-!
Curl commands written in the plainest way: a method, a URL, and long flags that each have one argument between
apostrophes.
-/

namespace LoadScript.Curl

structure Argument where
  flag : String
  text : List Char
deriving DecidableEq, Repr

def Argument.chars (argument : Argument) : List Char :=
  ' ' :: argument.flag.toList ++ ' ' :: '\'' :: argument.text ++ ['\'']

structure Command where
  method : Method
  url : String
  headers : List Header := []
  credentials : Option Credentials := none
  body : String := ""
deriving DecidableEq, Repr

namespace Command

def headerArgument (header : Header) : Argument :=
  ⟨"--header", header.key.toList ++ ':' :: ' ' :: header.value.toList⟩

def userArgument (credentials : Credentials) : Argument :=
  ⟨"--user", credentials.user.toList ++ ':' :: credentials.password.toList⟩

def dataArgument (body : String) : Argument := ⟨"--data", body.toList⟩

def arguments (command : Command) : List Argument :=
  command.headers.map headerArgument ++ command.credentials.toList.map userArgument ++
    [dataArgument command.body]

def opening (command : Command) : List Char :=
  ("curl --request " ++ command.method.name ++ " '" ++ command.url ++ "'").toList

def chars (command : Command) : List Char :=
  command.opening ++ command.arguments.flatMap Argument.chars

def text (command : Command) : String := String.ofList command.chars

def request (command : Command) : Request := {
  name := "Imported from cURL"
  method := command.method
  url := command.url
  body := command.body
  headers := command.headers
  credentials := command.credentials
  authKind := if command.credentials.isSome then .basic else .none }

def texts (command : Command) : List String :=
  command.url :: command.body ::
    command.headers.flatMap (fun header => [header.key, header.value]) ++
    command.credentials.toList.flatMap fun credentials => [credentials.user, credentials.password]

structure IsPlain (command : Command) : Prop where
  http : startsWithHttp command.url.toList = true
  solid : ∀ character ∈ command.url.toList, Text.isBlank character = false
  keys : ∀ header ∈ command.headers, ':' ∉ header.key.toList ∧ Text.trim header.key = header.key
  values : ∀ header ∈ command.headers, Text.trim header.value = header.value
  users : ∀ credentials ∈ command.credentials, ':' ∉ credentials.user.toList
  body : Text.trim command.body = command.body
  unquoted : ∀ text ∈ command.texts, IsUnquoted text.toList
  flagless : ∀ text ∈ command.texts, HasNoFlag true text.toList

end Command

def withBody (command body : String) : String :=
  command ++ " --data-raw '" ++ body ++ "'"

/-- Bodies in which no search finds an argument. Only methods and user names are found without marks around
them, and methods are looked for in the joined lines. -/
structure IsInert (body : String) : Prop where
  shown : Text.isAllBlank body = false
  unquoted : IsUnquoted body.toList
  methods : ReadsNothing (readBehind .either ["--request", "-x"] methodName?) false
    (joinLines body.toList)
  users : ReadsNothing (readBehind .exact ["--user", "-u"] barePair?) false body.toList

end LoadScript.Curl
