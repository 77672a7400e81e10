import LoadScript.Json.Scanner

/-!
Reading JSON text. Of members with one name the last one counts, in the place of the first.
-/

namespace LoadScript.Json

def memberName (dialect : Dialect) (text : List Char) : Except Fault (String × List Char) :=
  match text with
  | '"' :: rest => do
      let (name, rest) ← stringBody dialect text 0 rest
      match skipGaps rest with
      | ':' :: rest => pure (String.ofList name, skipGaps rest)
      | rest => .error (.at .expectedColon rest)
  | _ => .error (.at .expectedName text)

mutual

/-- Reads one value that lies in `depth` lists and objects. Going from a list or object to a value inside it
takes one character at least and two units of fuel. -/
def readValue (dialect : Dialect) (depth : Nat) : (fuel : Nat) → List Char → Except Fault (Json × List Char)
  | 0, text => .error (.at .expectedValue text)
  | fuel + 1, text =>
      match text with
      | '"' :: rest => do
          let (body, rest) ← stringBody dialect text 0 rest
          pure (.string (String.ofList body), rest)
      | '{' :: rest =>
          if dialect.nestingLimit ≤ depth then .error (.overrun .deepObject)
          else
            match skipGaps rest with
            | '}' :: rest => .ok (.object [], rest)
            | rest => do
                let (members, rest) ← readMembers dialect (depth + 1) fuel [] rest
                pure (.object members, rest)
      | '[' :: rest =>
          if dialect.nestingLimit ≤ depth then .error (.overrun .deepList)
          else
            match skipGaps rest with
            | ']' :: rest => .ok (.array [], rest)
            | rest => do
                let (items, rest) ← readItems dialect (depth + 1) fuel rest
                pure (.array items, rest)
      | text => scalar dialect text

def readMembers (dialect : Dialect) (depth : Nat) : (fuel : Nat) → Entries Json → List Char →
    Except Fault (Entries Json × List Char)
  | 0, _, text => .error (.at .expectedName text)
  | fuel + 1, before, text => do
      let (name, rest) ← memberName dialect text
      let (member, rest) ← readValue dialect depth fuel rest
      let entries := before.put name member
      match skipGaps rest with
      | '}' :: rest => pure (entries, rest)
      | ',' :: rest => readMembers dialect depth fuel entries (skipGaps rest)
      | rest => .error (.at .expectedComma rest)

def readItems (dialect : Dialect) (depth : Nat) : (fuel : Nat) → List Char → Except Fault (List Json × List Char)
  | 0, text => .error (.at .expectedValue text)
  | fuel + 1, text => do
      let (item, rest) ← readValue dialect depth fuel text
      match skipGaps rest with
      | ']' :: rest => pure ([item], rest)
      | ',' :: rest => do
          let (others, rest) ← readItems dialect depth fuel (skipGaps rest)
          pure (item :: others, rest)
      | rest => .error (.at .expectedComma rest)

end

def document (dialect : Dialect) (text : List Char) : Except Fault Json :=
  match text with
  | '\uFEFF' :: _ => .error (.at .byteOrderMark text)
  | _ => do
      let (result, rest) ← readValue dialect 0 (2 * text.length + 1) (skipGaps text)
      match skipGaps rest with
      | [] => pure result
      | rest => .error (.at .extraData rest)

structure SyntaxError where
  problem : Problem
  line : Nat
  column : Nat
  offset : Nat
deriving DecidableEq, Repr

def Problem.locate (problem : Problem) (remaining : Nat) (text : List Char) : SyntaxError :=
  let offset := text.length - remaining
  let before := text.take offset
  { problem
    line := before.count '\n' + 1
    column := (before.reverse.takeWhile (· != '\n')).length + 1
    offset := offset }

inductive ReadError where
  | badSyntax (error : SyntaxError)
  | overrun (overrun : Overrun)
deriving DecidableEq, Repr

def parse (dialect : Dialect) (text : String) : Except ReadError Json :=
  (document dialect text.toList).mapError fun
    | .problem problem remaining => .badSyntax (problem.locate remaining text.toList)
    | .overrun overrun => .overrun overrun

def Problem.message : Problem → String
  | .expectedValue => "Expecting value"
  | .expectedName => "Expecting property name enclosed in double quotes"
  | .expectedColon => "Expecting ':' delimiter"
  | .expectedComma => "Expecting ',' delimiter"
  | .extraData => "Extra data"
  | .unterminatedString => "Unterminated string starting at"
  | .controlCharacter => "Invalid control character at"
  | .badEscape => "Invalid \\escape"
  | .badCodeEscape => "Invalid \\uXXXX escape"
  | .byteOrderMark => "Unexpected UTF-8 BOM (decode using utf-8-sig)"

def SyntaxError.message (error : SyntaxError) : String :=
  error.problem.message ++ ": line " ++ toString error.line ++ " column " ++ toString error.column ++
    " (char " ++ toString error.offset ++ ")"

end LoadScript.Json
