import LoadScript.Service.Server
import LoadScript.Service.Target
import LoadScript.Text.Case

/-!
The server that the service runs on here. The letter case of a method does not matter, and who may ask for a page
may also ask for its head.
-/

namespace LoadScript.Service

def Call.methodName (call : Call) : String := Text.upper call.method

def Call.path (call : Call) : String := (Target.ofText call.target).route

def Route.allows (route : Route) (method : String) : Bool :=
  method = route.method || (method = "HEAD" && route.method = "GET")

def Call.received (routes : List Route) (call : Call) : Reception :=
  match (Target.ofText call.target).error? with
  | some error => .failed error.message
  | none =>
      let known := routes.filter fun route => route.path = call.path
      match known.find? fun route => route.allows call.methodName with
      | some route => .handled route.handler
      | none => .answered (if known.isEmpty then 404 else 405)

def Server.standard : Server where
  receive := Call.received
  methodName := Call.methodName
  path := Call.path
  text call := if call.body.utf8ByteSize < bodyLimit then .ok call.body else .error 413
  encodes text := text.toList.all (!Json.standsForHalf ·)
  reader := .standard

end LoadScript.Service
