import LoadScript.Script.Value

/-!
What code stands for when it runs: a string, a template with its references filled in, or the default of a
constant that no setting of the run overrides.
-/

namespace LoadScript.Script

abbrev Values := List Char → List Char

def Values.bind (values : Values) (name value : List Char) : Values :=
  fun other => if other = name then value else values other

def referenceValue? (values : Values) : List Token → Option (List Char)
  | [.word name] => some (values name)
  | [.word store, .punctuator ['.'], .word name] =>
      if store = chainStore.toList then some (values name) else none
  | _ => none

def insertionsValue? (values : Values) (inserted : List Token) : List Token → Option (List Char)
  | [] => none
  | .template false closes content :: rest => do
      let value ← referenceValue? values inserted
      let text ← templateValue? content
      if closes then if rest.isEmpty then pure (value ++ text) else none
      else
        let others ← insertionsValue? values [] rest
        pure (value ++ text ++ others)
  | token :: rest => insertionsValue? values (inserted ++ [token]) rest

def tokensValue? (values : Values) : List Token → Option (List Char)
  | [.string _ content] => unescape content
  | [.template true true content] => templateValue? content
  | .template true false content :: rest => do
      let text ← templateValue? content
      let others ← insertionsValue? values [] rest
      pure (text ++ others)
  | [.word store, .punctuator ['.'], .word _, .punctuator ['|', '|'], .string _ content] =>
      if store = "__ENV".toList then unescape content else none
  | tokens => referenceValue? values tokens

def codeValue? (values : Values) (code : String) : Option (List Char) :=
  (lex code).bind (tokensValue? values)

/-! What values stand for, told without code. -/

namespace Gapped

def mapTexts {α : Type} (change : List Char → List Char) (gapped : Gapped α) : Gapped α :=
  ⟨change gapped.first, gapped.rest.map fun entry => (entry.1, change entry.2)⟩

def fill (values : Values) (cut : Gapped (List Char)) : List Char :=
  cut.first ++ cut.rest.flatMap fun entry => values entry.1 ++ entry.2

end Gapped

def EndsInPlaceholder (text : List Char) : Prop :=
  ∃ name, IsPlaceholderName name ∧ placeholderText name <:+ text

end LoadScript.Script
