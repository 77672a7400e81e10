import LoadScript.Json.Reader

/-!
What the service runs on: it finds the handlers of the requests, takes their bodies as text, and sends texts back.
-/

namespace LoadScript.Service

structure Call where
  method : String
  target : String
  body : String := ""
deriving DecidableEq, Repr

inductive Handler where
  | health
  | compile
  | importCurl
deriving DecidableEq, Repr

structure Route where
  method : String
  path : String
  handler : Handler
deriving DecidableEq, Repr

def routes : List Route := [
  ⟨"GET", "/health", .health⟩, ⟨"POST", "/compile", .compile⟩, ⟨"POST", "/import/curl", .importCurl⟩]

inductive Reception where
  | handled (handler : Handler)
  | answered (status : Nat)
  | failed (reason : String)
deriving DecidableEq, Repr

structure Server where
  receive : List Route → Call → Reception
  methodName : Call → String
  path : Call → String
  text : Call → Except Nat String
  encodes : String → Bool
  reader : Json.Reader

namespace Server

def bodyLimit : Nat := 1024 * 1024

/-- What the service relies on: a request for a route goes to its handler, and a body is taken as it is unless it
reaches the limit. -/
structure Conforms (server : Server) : Prop where
  receive_route : ∀ route ∈ routes, ∀ body,
    server.receive routes ⟨route.method, route.path, body⟩ = .handled route.handler
  text_small : ∀ call : Call, call.body.utf8ByteSize < bodyLimit → server.text call = .ok call.body
  text_large : ∀ call : Call, bodyLimit ≤ call.body.utf8ByteSize → server.text call = .error 413

end Server

end LoadScript.Service
