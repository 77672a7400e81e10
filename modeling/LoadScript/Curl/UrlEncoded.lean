import LoadScript.Plan.Request
import LoadScript.Text.Digit
import LoadScript.Text.Split

/-!
Reading the bodies that forms are sent in. Ampersands divide the fields, the first equals sign of a field
stands between its key and its value, and percent signs stand for the bytes of their texts.
-/

namespace LoadScript

def Form.pairs (form : Form) : List (String × String) :=
  form.fields.map fun field => (field.key, field.value)

namespace Curl

open Text

def percentDecode? : List Char → Option (List UInt8)
  | [] => some []
  | '%' :: high :: low :: rest => do
      let high ← hexValue? high
      let low ← hexValue? low
      let bytes ← percentDecode? rest
      pure (UInt8.ofNat (16 * high + low) :: bytes)
  | character :: rest => do
      let bytes ← percentDecode? rest
      if character = '%' then none else pure (String.utf8EncodeChar character ++ bytes)

def decodeComponent? (text : List Char) : Option String := do
  let bytes ← percentDecode? text
  let characters ← bytes.toByteArray.utf8Decode?
  pure (String.ofList characters.toList)

def decodeField? (piece : List Char) : Option (String × String) := do
  let (key, value) ← cut? '=' piece
  let key ← decodeComponent? key
  let value ← decodeComponent? value
  pure (key, value)

def decodeForm? (body : String) : Option (List (String × String)) :=
  (splitAt '&' body.toList).mapM decodeField?

end Curl

end LoadScript
