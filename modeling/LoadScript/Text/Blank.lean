import LoadScript.Text.Ranges

/-!
White space: which characters are blank, and trimming and splitting at them.
-/

namespace LoadScript.Text

def blankRanges : Ranges := [
  (0x09, 0x0D), (0x1C, 0x20), (0x85, 0x85), (0xA0, 0xA0), (0x1680, 0x1680), (0x2000, 0x200A),
  (0x2028, 0x2029), (0x202F, 0x202F), (0x205F, 0x205F), (0x3000, 0x3000)]

def isBlank (character : Char) : Bool :=
  blankRanges.contains character.toNat

def dropEndWhile (drops : Char → Bool) (text : List Char) : List Char :=
  (text.reverse.dropWhile drops).reverse

def trimChars (text : List Char) : List Char :=
  dropEndWhile isBlank (text.dropWhile isBlank)

def isPadding (character : Char) : Bool :=
  isBlank character && !(0x1C ≤ character.toNat && character.toNat ≤ 0x1F)

def trimPadding (text : List Char) : List Char :=
  dropEndWhile isPadding (text.dropWhile isPadding)

def trim (text : String) : String :=
  String.ofList (trimChars text.toList)

def trimEnd (text : String) : String :=
  String.ofList (dropEndWhile isBlank text.toList)

def isAllBlank (text : String) : Bool :=
  text.toList.all isBlank

def wordsOf : List Char → List (List Char)
  | [] => []
  | character :: rest =>
      if isBlank character then wordsOf rest
      else
        match rest, wordsOf rest with
        | next :: _, word :: words =>
            if isBlank next then [character] :: word :: words else (character :: word) :: words
        | _, words => [character] :: words

def words (text : String) : List String :=
  (wordsOf text.toList).map String.ofList

end LoadScript.Text
