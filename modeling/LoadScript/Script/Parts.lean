import LoadScript.Script.Value
import LoadScript.Text.Split
import Mathlib.Data.List.Chain

/-!
The parts of a template as places of the value that it was made of: a text stands for itself, and the
reference of a placeholder for the placeholder.
-/

namespace LoadScript.Script

def originOf (reference : String) : List Char :=
  (Text.dropStart? (chained "").toList reference.toList).getD reference.toList

def Part.source : Part → List Char
  | .text value => value.toList
  | .insert (.reference reference) => placeholderText (originOf reference)
  | .insert _ => []

def Part.inserted? : Part → Option Expr
  | .text _ => none
  | .insert value => some value

def Part.StandsApart : (part next : Part) → Prop
  | .text _, .text _ => False
  | _, _ => True

/-- The references of placeholders and the texts between them, with no text that could be split further, left
out, or joined to the next one. -/
structure IsSplitOf (parts : List Part) (value : String) : Prop where
  source : parts.flatMap Part.source = value.toList
  references : ∀ inserted, .insert inserted ∈ parts →
    ∃ name, IsPlaceholderName name ∧ inserted = .reference (referenceName (String.ofList name))
  texts : ∀ text, .text text ∈ parts → text ≠ "" ∧ ¬ HasPlaceholder text.toList
  apart : parts.IsChain Part.StandsApart

end LoadScript.Script
