import LoadScript.Compile.Headers
import LoadScript.Plan.Basic
import LoadScript.Script.Printer
import LoadScript.Text.Split

/-!
The block of the script that sends one request.
-/

namespace LoadScript.Compile

open Script

def isAbsolute (url : String) : Bool :=
  match url.toList with
  | [] => false
  | first :: rest =>
      first.isAlpha &&
        (Text.dropStart? "://".toList
          (rest.dropWhile fun character =>
            character.isAlphanum || character = '+' || character = '.' || character = '-')).isSome

def baseUrlName : String := "BASE_URL"

def placeholder (name : String) : String := "$" ++ openBrace ++ name ++ closeBrace

def requestUrl (url baseUrl : String) : Expr :=
  if baseUrl != "" && !isAbsolute url then
    resolve (placeholder baseUrlName ++ "/" ++
      String.ofList (url.toList.dropWhile (· = '/')))
  else resolve url

def httpFunction : Method → String
  | .get => "http.get"
  | .post => "http.post"
  | .put => "http.put"
  | .delete => "http.del"
  | .patch => "http.patch"

def extractedValue (path : String) : Expr :=
  match Text.dropStart? "$.".toList path.toList with
  | some rest => .call "res.json" [.string (String.ofList rest)]
  | none => .raw ("res.json()." ++ path)

def extractionStmts (extraction : Extraction) : List Stmt :=
  if extraction.isActive then
    let target := chained extraction.savedAs
    [ .comment "Extract data for request chaining",
      .ifThen (.raw "res.status === 200 || res.status === 201") [
        .assign target (extractedValue extraction.path),
        .evaluate (.call "console.log" [
          .string ("Extracted " ++ extraction.savedAs ++ ":"), .reference target])],
      .blank]
  else []

def checkStmts (checks : List Check) : List Stmt :=
  if checks.isEmpty then []
  else
    let conditions := checks.map fun check => (check.name, Expr.arrow ["r"] (.raw check.condition))
    [.evaluate (.call "check" [.reference "res", .object conditions true false])]

def pauseStmts (thinkTime : ThinkTime) (request : Request) : List Stmt :=
  if thinkTime.mode = .perRequest && request.thinkTime.isPositive then
    [.evaluate (.call "sleep" [.number (.real request.thinkTime)])]
  else []

def callStmts (request : Request) (baseUrl : String) : List Stmt :=
  let url := requestUrl request.url baseUrl
  let function := httpFunction request.method
  if request.method.hasBody then
    [ .constant "payload" (resolveTemplate request.body),
      .constant "res" (.call function [url, .reference "payload", .reference "params"])]
  else [.constant "res" (.call function [url, .reference "params"])]

def requestBody (request : Request) (baseUrl : String) (thinkTime : ThinkTime)
    (headers : List (String × Expr)) : List Stmt :=
  [.constant "params" (.object [("headers", .object headers true false)] false false), .blank] ++
    callStmts request baseUrl ++ [.blank] ++ extractionStmts request.extraction ++
    checkStmts request.checks ++ pauseStmts thinkTime request

def requestBlock (request : Request) (baseUrl : String) (thinkTime : ThinkTime) : Logged Stmt := do
  let headers ← headers request
  pure (.group request.name (requestBody request baseUrl thinkTime headers))

def requestText (request : Request) (index : Int) (baseUrl : String) (thinkTime : ThinkTime)
    (level : Int) : Logged String := do
  Logged.record .debug requestChannel
    ("Emitting request #" ++ toString index ++ " " ++ request.method.name ++ " " ++ request.url)
  let block ← requestBlock request baseUrl thinkTime
  pure (render standardUnit level [block])

end LoadScript.Compile
