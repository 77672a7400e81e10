import LoadScript.Json.Parser

/-!
Where text of JSON lies, in strings or between brackets, and where it goes beyond a limit of reading.
-/

namespace LoadScript.Json

inductive Place where
  | outside (depth : Nat)
  | quoted (depth : Nat)
  | escaped (depth : Nat)
deriving DecidableEq, Repr

def opensNesting (character : Char) : Bool := character = '[' || character = '{'

def closesNesting (character : Char) : Bool := character = ']' || character = '}'

def Place.after : Place → Char → Place
  | .outside depth, character =>
      if character = '"' then .quoted depth
      else if opensNesting character then .outside (depth + 1)
      else if closesNesting character then .outside (depth - 1)
      else .outside depth
  | .quoted depth, character =>
      if character = '"' then .outside depth
      else if character = '\\' then .escaped depth
      else .quoted depth
  | .escaped depth, _ => .quoted depth

def Leads (start : Place) (text : List Char) (behind : Place) (rest : List Char) : Prop :=
  ∃ passed, text = passed ++ rest ∧ passed.foldl Place.after start = behind

def StandsBeyond (dialect : Dialect) (depth : Nat) (text : List Char) : Overrun → Prop
  | .longNumber number =>
      ∃ digits rest, text = digits ++ rest ∧ (∀ digit ∈ digits, digit.isDigit = true) ∧
        dialect.digitLimit < digits.length ∧ number = .read digits.length
  | .deepList => dialect.nestingLimit ≤ depth ∧ text.head? = some '['
  | .deepObject => dialect.nestingLimit ≤ depth ∧ text.head? = some '{'

def Exceeds (dialect : Dialect) (start : Place) (text : List Char) (excess : Overrun) : Prop :=
  ∃ depth rest, Leads start text (.outside depth) rest ∧ StandsBeyond dialect depth rest excess

end LoadScript.Json
