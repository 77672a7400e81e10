import LoadScript.Number.Double

/-!
One HTTP request of a load test.
-/

namespace LoadScript

inductive Method where
  | get
  | post
  | put
  | delete
  | patch
deriving DecidableEq, Repr

namespace Method

def all : List Method := [.get, .post, .put, .delete, .patch]

def name : Method → String
  | .get => "GET"
  | .post => "POST"
  | .put => "PUT"
  | .delete => "DELETE"
  | .patch => "PATCH"

def ofName? (name : String) : Option Method := all.find? fun method => method.name = name

def hasBody : Method → Bool
  | .post | .put | .patch => true
  | .get | .delete => false

end Method

inductive AuthKind where
  | none
  | bearer
  | basic
  | custom
deriving DecidableEq, Repr

namespace AuthKind

def all : List AuthKind := [.none, .bearer, .basic, .custom]

def name : AuthKind → String
  | .none => "none"
  | .bearer => "bearer"
  | .basic => "basic"
  | .custom => "custom"

end AuthKind

structure Header where
  key : String
  value : String
deriving DecidableEq, Repr

structure Check where
  name : String
  condition : String
deriving DecidableEq, Repr

structure Extraction where
  enabled : Bool := false
  path : String := ""
  savedAs : String := ""
deriving DecidableEq, Repr

def Extraction.isActive (extraction : Extraction) : Bool :=
  extraction.enabled && extraction.path != "" && extraction.savedAs != ""

structure Credentials where
  user : String := ""
  password : String := ""
deriving DecidableEq, Repr

structure FormField where
  key : String
  value : String
  isFile : Bool := false
deriving DecidableEq, Repr

structure Form where
  fields : List FormField := []
  hasFile : Bool := false
deriving DecidableEq, Repr

structure Request where
  name : String := ""
  method : Method := .get
  url : String := ""
  body : String := ""
  thinkTime : Double := .zero
  authKind : AuthKind := .none
  bearerToken : String := ""
  credentials : Option Credentials := none
  headers : List Header := []
  extraction : Extraction := {}
  checks : List Check := []
  form : Option Form := none
deriving DecidableEq, Repr

end LoadScript
