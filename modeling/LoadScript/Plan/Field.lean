import LoadScript.Json.Parser
import LoadScript.Text.Quoted

/-!
Reading the fields of a document. A field that is missing or null takes its default, and a field of the
wrong kind is an error.
-/

namespace LoadScript.Document

inductive FieldKind where
  | text
  | flag
  | whole
  | number
  | list
  | object
deriving DecidableEq, Repr

def FieldKind.name : FieldKind → String
  | .text => "str"
  | .flag => "bool"
  | .whole => "int"
  | .number => "int or float"
  | .list => "list"
  | .object => "dict"

inductive LoadError where
  | badSyntax (error : Json.SyntaxError)
  | notObject (actual : String)
  | wrongKind (field : String) (expected : FieldKind) (actual : String)
  | entryNotObject (field actual : String)
  | notOneOf (field : String) (allowed : List String) (given : String)
  | unsupportedMethod (name : String)
  | profileNotList (profile : String)
  | profileEntryNotObject (profile : String)
  | numberTooLarge
  | overrun (overrun : Json.Overrun)
deriving DecidableEq, Repr

namespace LoadError

def ofReadError : Json.ReadError → LoadError
  | .badSyntax error => .badSyntax error
  | .overrun excess => .overrun excess

def isRefusal : LoadError → Bool
  | .numberTooLarge | .overrun _ => false
  | _ => true

def message : LoadError → String
  | .badSyntax error => "Invalid config file: " ++ error.message
  | .notObject actual => "Config document must be a JSON object, got " ++ actual
  | .wrongKind field expected actual =>
      "Field " ++ Text.quoted field ++ " must be " ++ expected.name ++ ", got " ++ actual
  | .entryNotObject field actual =>
      "Entries of " ++ Text.quoted field ++ " must be objects, got " ++ actual
  | .notOneOf field allowed given =>
      "Field " ++ Text.quoted field ++ " must be one of: " ++ String.intercalate ", " allowed ++
        "; got " ++ Text.quoted given
  | .unsupportedMethod name => "Unsupported HTTP method: " ++ Text.quoted name
  | .profileNotList profile => "Environment profile " ++ Text.quoted profile ++ " must be a list"
  | .profileEntryNotObject profile =>
      "Entries of profile " ++ Text.quoted profile ++ " must be objects"
  | .numberTooLarge => "int too large to convert to float"
  | .overrun excess => excess.message

end LoadError

abbrev Read (α : Type) := Except LoadError α

def field? (members : Entries Json) (key : String) : Option Json :=
  match members.find? key with
  | some .null => none
  | other => other

def textField (members : Entries Json) (key default : String) : Read String :=
  match field? members key with
  | none => .ok default
  | some (.string value) => .ok value
  | some other => .error (.wrongKind key .text other.kindName)

def flagField (members : Entries Json) (key : String) (default : Bool) : Read Bool :=
  match field? members key with
  | none => .ok default
  | some (.boolean value) => .ok value
  | some other => .error (.wrongKind key .flag other.kindName)

def wholeField (members : Entries Json) (key : String) (default : Int) : Read Int :=
  match field? members key with
  | none => .ok default
  | some (.whole value) => .ok value
  | some other => .error (.wrongKind key .whole other.kindName)

def nearestNumber : Option Double → Read Double
  | some number => .ok number
  | none => .error .numberTooLarge

def numberField (members : Entries Json) (key : String) (default : Double) : Read Double :=
  match field? members key with
  | none => .ok default
  | some (.whole value) => nearestNumber (Double.ofInt? value)
  | some (.real value) => .ok value
  | some other => .error (.wrongKind key .number other.kindName)

def sectionField (members : Entries Json) (key : String) : Read (Entries Json) :=
  match field? members key with
  | none => .ok []
  | some (.object value) => .ok value
  | some other => .error (.wrongKind key .object other.kindName)

def entry (key : String) : Json → Read (Entries Json)
  | .object members => .ok members
  | other => .error (.entryNotObject key other.kindName)

def entriesField (members : Entries Json) (key : String) : Read (List (Entries Json)) :=
  match field? members key with
  | none => .ok []
  | some (.array items) => items.mapM (entry key)
  | some other => .error (.wrongKind key .list other.kindName)

def choiceField {α : Type} (choices : List α) (name : α → String) (members : Entries Json)
    (key : String) (default : α) : Read α := do
  let given ← textField members key (name default)
  match choices.find? fun choice => name choice = given with
  | some choice => pure choice
  | none => .error (.notOneOf key (choices.map name) given)

end LoadScript.Document
