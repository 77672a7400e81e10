import LoadScript.Script.Lexer
import LoadScript.Script.Placeholder
import LoadScript.Text.Digit
import LoadScript.Text.Lines

/-!
What literals stand for: their text without escapes, and templates as texts with gaps between them. A value is
cut at its placeholders in the same way.
-/

namespace LoadScript.Script

/-! Escapes. -/

def unitChar? (digits : List Char) : Option Char := do
  let values ← digits.mapM Text.hexValue?
  let unit := values.foldl (fun unit value => 16 * unit + value) 0
  if unit.isValidChar then some (Char.ofNat unit) else none

def escapedChar? (character : Char) : Option Char :=
  if character = 'n' then some '\n'
  else if character = 'r' then some '\r'
  else if character = 't' then some '\t'
  else if character = 'b' then some '\x08'
  else if character = 'v' then some '\x0b'
  else if character = 'f' then some '\x0c'
  else if character = 'u' || character = 'x' || character.isDigit || isLineEnd character then none
  else some character

/-- The text of a literal without its escapes. Numeric escapes other than those of four digits are not read,
and neither are surrogates and escaped line ends. -/
def unescape : List Char → Option (List Char)
  | [] => some []
  | '\\' :: 'u' :: first :: second :: third :: fourth :: rest => do
      let character ← unitChar? [first, second, third, fourth]
      let others ← unescape rest
      pure (character :: others)
  | '\\' :: character :: rest => do
      let meant ← escapedChar? character
      let others ← unescape rest
      pure (meant :: others)
  | character :: rest => do
      let others ← unescape rest
      if character = '\\' then none else pure (character :: others)

def templateValue? (content : List Char) : Option (List Char) :=
  unescape (Text.unifyLineEndsOf content)

/-! Texts with gaps. -/

structure Gapped (α : Type) where
  first : List Char
  rest : List (α × List Char)

namespace Gapped

variable {α β : Type}

def texts (gapped : Gapped α) : List (List Char) := gapped.first :: gapped.rest.map Prod.snd

def map (change : α → β) (gapped : Gapped α) : Gapped β :=
  ⟨gapped.first, gapped.rest.map fun entry => (change entry.1, entry.2)⟩

def push (text : List Char) (gapped : Gapped α) : Gapped α := ⟨text ++ gapped.first, gapped.rest⟩

def gap (item : α) (gapped : Gapped α) : Gapped α := ⟨[], (item, gapped.first) :: gapped.rest⟩

def unescape? (gapped : Gapped α) : Option (Gapped α) := do
  let first ← unescape gapped.first
  let rest ← gapped.rest.mapM fun entry => (unescape entry.2).map fun text => (entry.1, text)
  pure ⟨first, rest⟩

end Gapped

def insertionTokens (opens : Bool) (text : List Char) : List (List Token × List Char) → List Token
  | [] => [.template opens true text]
  | (inserted, next) :: rest =>
      .template opens false text :: inserted ++ insertionTokens false next rest

def Gapped.tokens (literal : Gapped (List Token)) : List Token :=
  insertionTokens true literal.first literal.rest

/-! Cutting values at their placeholders. -/

def IsPlaceholderName : List Char → Prop
  | [] => False
  | first :: rest => isNameStart first = true ∧ ∀ character ∈ rest, isNamePart character = true

def placeholderText (name : List Char) : List Char := '$' :: '\x7b' :: name ++ ['\x7d']

def HasPlaceholder (text : List Char) : Prop :=
  ∃ name, IsPlaceholderName name ∧ placeholderText name <:+: text

def Gapped.source (cut : Gapped (List Char)) : List Char :=
  cut.first ++ cut.rest.flatMap fun entry => placeholderText entry.1 ++ entry.2

structure Gapped.IsCutOf (cut : Gapped (List Char)) (value : List Char) : Prop where
  source : cut.source = value
  names : ∀ entry ∈ cut.rest, IsPlaceholderName entry.1
  texts : ∀ text ∈ cut.texts, ¬ HasPlaceholder text

def referenceTokens (name : List Char) : List Token :=
  if name.head?.any Char.isUpper then [.word name]
  else [.word chainStore.toList, .punctuator ['.'], .word name]

/-! Code that is one literal. -/

def Encloses (mark : Char) (code : String) : Prop := ∃ inside, code.toList = mark :: inside ++ [mark]

def IsStringOf (code : String) (value : List Char) : Prop :=
  Encloses '\'' code ∧
    ∃ content, lex code = some [.string '\'' content] ∧ unescape content = some value

/-- Code that is one template, from its first character to its last, with texts that stand for those of a
value and insertions that are the references of its placeholders. -/
def IsTemplateOf (code : String) (cut : Gapped (List Char)) : Prop :=
  Encloses '\x60' code ∧
    ∃ literal : Gapped (List Token), lex code = some literal.tokens ∧
      literal.unescape? = some (cut.map referenceTokens)

end LoadScript.Script
