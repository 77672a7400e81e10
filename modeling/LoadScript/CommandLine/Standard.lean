import LoadScript.CommandLine.Arguments
import LoadScript.CommandLine.Console
import LoadScript.CommandLine.Platform

/-!
The platform that the program runs on here. Of a panel it shows the lines of the text without the frame.
-/

namespace LoadScript.CommandLine

def panelText (text : String) : String :=
  String.join ((Text.splitAt '\n' text.toList).map fun line =>
    let trimmed := Text.dropEndWhile (· = ' ') (line.dropWhile (· = ' '))
    String.ofList (trimmed ++ ['\n']))

def Platform.standard : Platform where
  parse := Command.ofArguments?
  help := "Usage: k6forge [OPTIONS] COMMAND [ARGS]...\n"
  shown message := (plainText message).mapError MarkupError.message
  panelled message := ((plainText message).map panelText).mapError MarkupError.message
  piped := unstyled
  encodes text := text.toList.all (!Json.standsForHalf ·)
  reader := .standard

end LoadScript.CommandLine
