import LoadScript.Script.Literal
import LoadScript.Text.Blank
import LoadScript.Text.Lines

/-!
Writing syntax trees as script text. A level of indentation is one copy of the indentation
unit, and levels below zero have none.
-/

namespace LoadScript.Script

def openBrace : String := "\x7b"

def closeBrace : String := "\x7d"

def padding (unit : String) (level : Int) : String :=
  String.join (List.replicate level.toNat unit)

def spread (unit : String) (level : Int) (left right : String) (parts : List String) : String :=
  let rows := parts.map fun part => padding unit (level + 1) ++ part ++ ","
  left ++ "\n" ++ String.intercalate "\n" rows ++ "\n" ++ padding unit level ++ right

def innerLevel (inline : Bool) (level : Int) : Int :=
  if inline then level else level + 1

mutual

def exprText (unit : String) (level : Int) : Expr → String
  | .raw code => code
  | .reference name => name
  | .string value => quote value
  | .number value => numberText value
  | .template parts => "`" ++ partsText unit level parts ++ "`"
  | .object entries quotesKeys inline =>
      let parts := entryTexts unit (innerLevel inline level) quotesKeys entries
      if entries.isEmpty then openBrace ++ closeBrace
      else if inline then
        openBrace ++ " " ++ String.intercalate ", " parts ++ " " ++ closeBrace
      else spread unit level openBrace closeBrace parts
  | .array items inline =>
      let parts := exprTexts unit (innerLevel inline level) items
      if items.isEmpty then "[]"
      else if inline then "[" ++ String.intercalate ", " parts ++ "]"
      else spread unit level "[" "]" parts
  | .call callee arguments =>
      callee ++ "(" ++ String.intercalate ", " (exprTexts unit level arguments) ++ ")"
  | .arrow parameters body =>
      "(" ++ String.intercalate ", " parameters ++ ") => " ++ exprText unit level body
  | .binary operator left right =>
      exprText unit level left ++ " " ++ operator ++ " " ++ exprText unit level right

def partsText (unit : String) (level : Int) : List Part → String
  | [] => ""
  | .text value :: rest => templateText value ++ partsText unit level rest
  | .insert value :: rest =>
      "$" ++ openBrace ++ exprText unit level value ++ closeBrace ++ partsText unit level rest

def exprTexts (unit : String) (level : Int) : List Expr → List String
  | [] => []
  | item :: rest => exprText unit level item :: exprTexts unit level rest

def entryTexts (unit : String) (level : Int) (quotesKeys : Bool) :
    List (String × Expr) → List String
  | [] => []
  | (key, value) :: rest =>
      (keyText quotesKeys key ++ ": " ++ exprText unit level value) ::
        entryTexts unit level quotesKeys rest

end

def commentLines (indent text : String) : List String :=
  let lines := match Text.lines text with
    | [] => [""]
    | lines => lines
  lines.map fun line => Text.trimEnd (indent ++ "// " ++ line)

def splitCommentEnds : List Char → List Char
  | [] => []
  | '*' :: '/' :: rest => '*' :: ' ' :: '/' :: splitCommentEnds rest
  | character :: rest => character :: splitCommentEnds rest

def blockCommentLines (indent : String) (isDocumentation : Bool) (lines : List String) :
    List String :=
  let body := lines.map fun line =>
    Text.trimEnd (indent ++ " * " ++ String.ofList (splitCommentEnds line.toList))
  (indent ++ if isDocumentation then "/**" else "/*") :: body ++ [indent ++ " */"]

def importText (source : String) (whole : Option String) (names : List String) : String :=
  let wholeBinding := match whole with
    | none => []
    | some name => if name = "" then [] else [name]
  let nameBindings :=
    if names.isEmpty then []
    else [openBrace ++ " " ++ String.intercalate ", " names ++ " " ++ closeBrace]
  "import " ++ String.intercalate ", " (wholeBinding ++ nameBindings) ++ " from " ++
    quote source ++ ";"

def exportText (exported : Bool) : String := if exported then "export " else ""

def functionHead (name : String) (exported isDefault : Bool) : String :=
  if isDefault then "export default function() " ++ openBrace
  else exportText exported ++ "function " ++ name ++ "() " ++ openBrace

mutual

def stmtLines (unit : String) (level : Int) : Stmt → List String
  | .comment text => commentLines (padding unit level) text
  | .blockComment lines isDocumentation =>
      blockCommentLines (padding unit level) isDocumentation lines
  | .blank => [""]
  | .importFrom source whole names => [padding unit level ++ importText source whole names]
  | .declare exported keyword name value =>
      [padding unit level ++ exportText exported ++ keyword ++ " " ++ name ++ " = " ++
        exprText unit level value ++ ";"]
  | .assign target value => [padding unit level ++ target ++ " = " ++ exprText unit level value ++ ";"]
  | .evaluate value => [padding unit level ++ exprText unit level value ++ ";"]
  | .ifThen condition body =>
      (padding unit level ++ "if (" ++ exprText unit level condition ++ ") " ++ openBrace) ::
        bodyLines unit (level + 1) body ++ [padding unit level ++ closeBrace]
  | .function name exported isDefault body =>
      (padding unit level ++ functionHead name exported isDefault) ::
        bodyLines unit (level + 1) body ++ [padding unit level ++ closeBrace]
  | .group label body =>
      (padding unit level ++ "group(" ++ quote label ++ ", function() " ++ openBrace) ::
        bodyLines unit (level + 1) body ++ [padding unit level ++ closeBrace ++ ");"]
  | .switch subject cases =>
      (padding unit level ++ "switch (" ++ exprText unit level subject ++ ") " ++ openBrace) ::
        caseLines unit (level + 1) cases ++ [padding unit level ++ closeBrace]

def bodyLines (unit : String) (level : Int) : List Stmt → List String
  | [] => []
  | stmt :: rest =>
      if stmt.isBlank && rest.all Stmt.isBlank then []
      else stmtLines unit level stmt ++ bodyLines unit level rest

def caseLines (unit : String) (level : Int) : List Case → List String
  | [] => []
  | .mk value body :: rest =>
      (padding unit level ++ "case " ++ exprText unit level value ++ ":") ::
        bodyLines unit (level + 1) body ++ [padding unit level ++ unit ++ "break;"] ++
        caseLines unit level rest

end

def render (unit : String) (level : Int) (program : List Stmt) : String :=
  match bodyLines unit level program with
  | [] => ""
  | lines => String.intercalate "\n" lines ++ "\n"

def standardUnit : String := "  "

end LoadScript.Script
