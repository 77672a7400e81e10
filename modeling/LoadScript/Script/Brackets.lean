import LoadScript.Script.Tokens

/-!
Round, square and curly brackets, in texts and among tokens, and the code of syntax trees in which they may stand.
-/

namespace LoadScript.Script

def closing? : Char → Option Char
  | '(' => some ')'
  | '[' => some ']'
  | '\x7b' => some '\x7d'
  | _ => none

def isClosing (character : Char) : Bool := ")]\x7d".toList.contains character

def isBracket (character : Char) : Bool := (closing? character).isSome || isClosing character

/-- The closing brackets that are due behind a text, the next one first, if some are due before it. There are
none if another bracket closes in the place of one that is due. -/
def dueBehind? (due : List Char) : List Char → Option (List Char)
  | [] => some due
  | character :: rest =>
      match closing? character with
      | some closing => dueBehind? (closing :: due) rest
      | none =>
          if isClosing character then
            if due.head? = some character then dueBehind? due.tail rest else none
          else dueBehind? due rest

def IsNested (text : List Char) : Prop := dueBehind? [] text = some []

instance : DecidablePred IsNested := fun text => inferInstanceAs (Decidable (dueBehind? [] text = some []))

example : IsNested "f([a, \x7b b: (1) \x7d])".toList ∧ ¬ IsNested "(]".toList ∧ ¬ IsNested ")(".toList := by
  decide

def Token.brackets : Token → List Char
  | .punctuator text => text.filter isBracket
  | .template opens closes _ => (if opens then [] else ['\x7d']) ++ if closes then [] else ['\x7b']
  | .word _ | .numeral _ | .string .. | .other _ => []

def brackets (tokens : List Token) : List Char := tokens.flatMap Token.brackets

/-! The code that stands in the text of a tree as it is. -/

mutual

def Expr.codes : Expr → List String
  | .raw code => [code]
  | .reference name => [name]
  | .string _ | .number _ => []
  | .template parts => partCodes parts
  | .object entries _ _ => entryCodes entries
  | .array items _ => exprCodes items
  | .call callee arguments => callee :: exprCodes arguments
  | .arrow parameters body => parameters ++ body.codes
  | .binary operator left right => left.codes ++ operator :: right.codes

def partCodes : List Part → List String
  | [] => []
  | .text _ :: rest => partCodes rest
  | .insert value :: rest => value.codes ++ partCodes rest

def exprCodes : List Expr → List String
  | [] => []
  | item :: rest => item.codes ++ exprCodes rest

def entryCodes : List (String × Expr) → List String
  | [] => []
  | (_, value) :: rest => value.codes ++ entryCodes rest

end

mutual

def Stmt.codes : Stmt → List String
  | .comment _ | .blockComment .. | .blank => []
  | .importFrom _ whole names => whole.toList ++ names
  | .declare _ keyword name value => keyword :: name :: value.codes
  | .assign target value => target :: value.codes
  | .evaluate value => value.codes
  | .ifThen condition body => condition.codes ++ bodyCodes body
  | .function name _ _ body => name :: bodyCodes body
  | .group _ body => bodyCodes body
  | .switch subject cases => subject.codes ++ caseCodes cases

def bodyCodes : List Stmt → List String
  | [] => []
  | stmt :: rest => stmt.codes ++ bodyCodes rest

def caseCodes : List Case → List String
  | [] => []
  | .mk value body :: rest => value.codes ++ bodyCodes body ++ caseCodes rest

end

def AreNested (codes : List String) : Prop := ∀ code ∈ codes, IsNested code.toList

instance (codes : List String) : Decidable (AreNested codes) := List.decidableBAll _ codes

end LoadScript.Script
