import LoadScript.CommandLine.Command
import LoadScript.Json.Reader

/-!
What the commands run on: the parser of their arguments, the console for messages, the output, which may be no
terminal, and the encoding of texts.
-/

namespace LoadScript.CommandLine

structure Platform where
  parse : List String → Option Command
  help : String
  shown : String → Except String String
  panelled : String → Except String String
  piped : String → String
  encodes : String → Bool
  reader : Json.Reader

namespace Platform

/-- What the commands rely on: plain texts are encoded and shown as they are, with a label in front or not, and
nothing but the sequences that an escape character starts is left out of the output. -/
structure Conforms (platform : Platform) : Prop where
  encodes_sevenBit : ∀ text, (∀ character ∈ text.toList, character.toNat < 0x80) →
    platform.encodes text = true
  shown_plain : ∀ message, '[' ∉ message.toList → ∃ text, platform.shown message = .ok text
  shown_labelled : ∀ title message, '[' ∉ title.toList → '[' ∉ message.toList →
    ∃ text, platform.shown ("[green]" ++ title ++ ":[/green] " ++ message) = .ok text
  piped_plain : ∀ text, Char.ofNat 0x1B ∉ text.toList → platform.piped text = text
  encodes_piped : ∀ text, platform.encodes (platform.piped text) = platform.encodes text

end Platform

end LoadScript.CommandLine
