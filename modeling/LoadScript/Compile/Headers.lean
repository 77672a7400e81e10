import LoadScript.Log.Record
import LoadScript.Plan.Request
import LoadScript.Script.Placeholder
import LoadScript.Text.Case
import LoadScript.Text.Quoted

/-!
The headers that a request sends.
-/

namespace LoadScript.Compile

open Script

def requestChannel : String := Log.channel "emit.request"

def authorization (request : Request) : List (String × Expr) :=
  match request.authKind, request.credentials with
  | .bearer, _ =>
      if request.bearerToken = "" then []
      else [("Authorization", resolve ("Bearer " ++ request.bearerToken))]
  | .basic, some credentials =>
      let encoded := Expr.call "encoding.b64encode"
        [resolve (credentials.user ++ ":" ++ credentials.password)]
      [("Authorization", .template [.text "Basic ", .insert encoded])]
  | _, _ => []

def declaredHeaders (request : Request) : List (String × Expr) :=
  (request.headers.filter fun header => header.key != "").map fun header =>
    (header.key, resolve header.value)

def contentType (request : Request) : List (String × Expr) :=
  if request.method.hasBody then [("Content-Type", .string "application/json")] else []

def headerCandidates (request : Request) : List (String × Expr) :=
  authorization request ++ declaredHeaders request ++ contentType request

def mergeHeaders (requestName : String) (seen : List String) :
    List (String × Expr) → Logged (List (String × Expr))
  | [] => pure []
  | (key, value) :: rest =>
      if seen.contains (Text.lower key) then do
        Logged.record .debug requestChannel
          ("Dropping duplicate header " ++ Text.quoted key ++ " on " ++ Text.quoted requestName)
        mergeHeaders requestName seen rest
      else do
        let others ← mergeHeaders requestName (Text.lower key :: seen) rest
        pure ((key, value) :: others)

def headers (request : Request) : Logged (List (String × Expr)) :=
  mergeHeaders request.name [] (headerCandidates request)

def usesBasicAuth (request : Request) : Bool :=
  request.authKind = .basic && request.credentials.isSome

end LoadScript.Compile
