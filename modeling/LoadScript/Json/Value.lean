import LoadScript.Entries
import LoadScript.Number.Double

/-!
JSON documents. Whole numbers of any size and doubles are kept apart, and objects keep the order of
their members.
-/

namespace LoadScript

inductive Json where
  | null
  | boolean (value : Bool)
  | whole (value : Int)
  | real (value : Double)
  | string (value : String)
  | array (items : List Json)
  | object (members : List (String × Json))
deriving Inhabited

namespace Json

def kindName : Json → String
  | .null => "NoneType"
  | .boolean _ => "bool"
  | .whole _ => "int"
  | .real _ => "float"
  | .string _ => "str"
  | .array _ => "list"
  | .object _ => "dict"

def isVoid : Json → Bool
  | .null => true
  | .boolean value => !value
  | .whole value => value = 0
  | .real (.finite _ mantissa _) => mantissa = 0
  | .real _ => false
  | .string value => value = ""
  | .array items => items.isEmpty
  | .object members => members.isEmpty

end Json

end LoadScript
