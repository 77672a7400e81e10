import LoadScript.Curl.Form
import LoadScript.Log.Record
import LoadScript.Text.Alphanumeric
import LoadScript.Text.Case

/-!
Importing requests from curl commands. Flags that are malformed are passed over; only blank text and
text of another command are refused.
-/

namespace LoadScript.Curl

open Text

def importChannel : String := Log.channel "importers.curl"

inductive ImportError where
  | emptyInput
  | notRecognized
deriving DecidableEq, Repr

def ImportError.message : ImportError → String
  | .emptyInput => "Empty cURL input"
  | .notRecognized => "Not a cURL command"

def joinLines : List Char → List Char
  | [] => []
  | '\\' :: '\r' :: '\n' :: rest => ' ' :: joinLines rest
  | '\\' :: '\n' :: rest => ' ' :: joinLines rest
  | character :: rest => character :: joinLines rest

def commandOf (text : List Char) : List Char := trimChars (joinLines text)

def isCommand (command : List Char) : Bool :=
  match dropStart? "curl".toList command with
  | some [] => true
  | some (next :: _) => isBlank next
  | none => false

def withoutMark : List Char → List Char
  | mark :: rest => if isQuote mark then rest else mark :: rest
  | [] => []

def writtenName? (text : List Char) (method : Method) : Option (List Char × List Char) :=
  match dropWord? (method.name.toList.map Char.toLower) text with
  | none => none
  | some rest =>
      if (rest.head?.map isWordCharacter).getD false then none
      else some (text.take method.name.length, rest)

def methodText? (text : List Char) : Option (List Char × List Char) :=
  Method.all.findSome? (writtenName? (withoutMark text))

def methodName? (text : List Char) : Option (Method × List Char) := do
  let (written, rest) ← methodText? text
  let method ← Method.ofName? (upper (String.ofList written))
  pure (method, rest)

def methodOf (command : List Char) : Method :=
  ((finds (fun text => (argument? .either ["--request", "-x"] text).bind methodName?)
    command).head?).getD .get

def startsWithHttp (text : List Char) : Bool :=
  (dropStart? "http".toList text).isSome

def urlOf (command : List Char) : List Char :=
  match quotedTexts 0 command with
  | first :: others => ((first :: others).find? startsWithHttp).getD first
  | [] =>
      match (wordsOf command).find? startsWithHttp with
      | some word => word.filter (!isQuote ·)
      | none => []

def headersOf (text : List Char) : List Header :=
  let pairs := finds
    (fun text => (argument? .exact ["--header", "-H"] text).bind (quotedPair? true)) text
  pairs.map fun (key, value) => ⟨String.ofList (trimChars key), String.ofList (trimChars value)⟩

def credentials? (text : List Char) : Option Credentials :=
  let users (pair? : List Char → Option ((List Char × List Char) × List Char)) :=
    finds (fun text => (argument? .exact ["--user", "-u"] text).bind pair?) text
  ((users (quotedPair? false)).head? <|> (users barePair?).head?).map fun (user, password) =>
    ⟨String.ofList user, String.ofList password⟩

def bodyOf (text : List Char) : String :=
  let data (names : List String) := (finds (quotedArgument? .either names) text).head?
  match data ["--data-raw"] <|> data ["--data", "-d"] with
  | some body => String.ofList (trimChars body)
  | none => ""

def hasContentType (headers : List Header) : Bool :=
  headers.any fun header => lower header.key = "content-type"

def requestOf (text : List Char) : Request :=
  let command := commandOf text
  let headers := headersOf text
  let body := bodyOf text
  let form := form? text
  let credentials := credentials? text
  let (body, headers) := match form with
    | none => (body, headers)
    | some form =>
        if body != "" then (body, headers)
        else if hasContentType headers then (formBody form, headers)
        else (formBody form, headers ++ [⟨"Content-Type", formContentType form⟩])
  { name := "Imported from cURL"
    method := methodOf command
    url := String.ofList (urlOf command)
    headers, body, form, credentials
    authKind := if credentials.isSome then .basic else .none }

def importMessage (request : Request) : String :=
  "Imported cURL: " ++ request.method.name ++ " " ++ request.url ++ " (" ++
    toString request.headers.length ++ " headers, body " ++ toString request.body.length ++
    " chars, form=" ++ (if request.form.isSome then "True" else "False") ++ ")"

def importRequest (text : String) : Except ImportError (Logged Request) :=
  if isAllBlank text then .error .emptyInput
  else if isCommand (commandOf text.toList) then
    let request := requestOf text.toList
    .ok do
      Logged.record .debug importChannel (importMessage request)
      pure request
  else .error .notRecognized

end LoadScript.Curl
