import LoadScript.Script.Identifier
import LoadScript.Script.Value
import LoadScript.Text.Split
import Mathlib.Data.List.Forall2

/-!
Templates that insert paths and strings: what they stand for, and whether their texts make up a further
insertion.
-/

namespace LoadScript.Script

def IsName : List Char → Prop
  | [] => False
  | first :: rest => startsName first = true ∧ ∀ character ∈ rest, continuesName character = true

instance : DecidablePred IsName
  | [] => inferInstanceAs (Decidable False)
  | first :: rest =>
      inferInstanceAs
        (Decidable (startsName first = true ∧ ∀ character ∈ rest, continuesName character = true))

def IsPath (code : String) : Prop := ∀ name ∈ Text.splitAt '.' code.toList, IsName name

instance (code : String) : Decidable (IsPath code) := List.decidableBAll IsName _

example : IsPath "extractedVars.id" ∧ ¬ IsPath "items.0" := by decide

def pathTokens (code : String) : List Token :=
  ((Text.splitAt '.' code.toList).map Token.word).intersperse (.punctuator ['.'])

def Expr.IsPathOrString : Expr → Prop
  | .reference name => IsPath name
  | .string _ => True
  | _ => False

inductive StandsFor : List Token → Expr → Prop
  | path (name : String) : StandsFor (pathTokens name) (.reference name)
  | string {content : List Char} {value : String} (means : unescape content = some value.toList) :
      StandsFor [.string '\'' content] (.string value)

def Gapped.ofTemplate : List Part → Gapped Expr
  | [] => ⟨[], []⟩
  | .text value :: rest => (ofTemplate rest).push value.toList
  | .insert value :: rest => (ofTemplate rest).gap value

def StandsForGap (written : List Token × List Char) (meant : Expr × List Char) : Prop :=
  StandsFor written.1 meant.1 ∧ unescape written.2 = some meant.2

def IsTemplateFor (code : String) (meant : Gapped Expr) : Prop :=
  Encloses '\x60' code ∧
    ∃ literal : Gapped (List Token), lex code = some literal.tokens ∧
      unescape literal.first = some meant.first ∧ List.Forall₂ StandsForGap literal.rest meant.rest

def firstOfTexts? : List Part → Option Char
  | .text value :: rest => value.toList.head? <|> firstOfTexts? rest
  | _ => none

/-- No text ends in a dollar sign where the next one starts with the bracket that makes an insertion of it. -/
def TextsKeepApart : List Part → Prop
  | [] => True
  | .text value :: rest =>
      (value.toList.getLast? = some '$' → firstOfTexts? rest ≠ some '\x7b') ∧ TextsKeepApart rest
  | .insert _ :: rest => TextsKeepApart rest

instance TextsKeepApart.decidable : DecidablePred TextsKeepApart
  | [] => inferInstanceAs (Decidable True)
  | .text value :: rest =>
      have : Decidable (TextsKeepApart rest) := decidable rest
      inferInstanceAs (Decidable
        ((value.toList.getLast? = some '$' → firstOfTexts? rest ≠ some '\x7b') ∧ TextsKeepApart rest))
  | .insert _ :: rest => decidable rest

end LoadScript.Script
