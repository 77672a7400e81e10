import LoadScript.Script.Lexer

/-!
The tokens of syntax trees, and the trees whose texts have these tokens.
-/

namespace LoadScript.Script

def isPlain (character : Char) : Bool := !"'\"\x60/".toList.contains character

def isCurly (character : Char) : Bool := character = '\x7b' || character = '\x7d'

/-- Code that may stand in a script as it is: it starts no literal and no comment, and inside an insertion
it has no curly bracket either. -/
def IsVerbatim (inserted : Bool) (code : String) : Prop :=
  ∀ character ∈ code.toList, isPlain character = true ∧ (inserted = true → isCurly character = false)

instance (inserted : Bool) (code : String) : Decidable (IsVerbatim inserted code) :=
  List.decidableBAll _ code.toList

mutual

def Expr.IsSafe (inserted : Bool) : Expr → Prop
  | .raw code => IsVerbatim inserted code
  | .reference name => IsVerbatim inserted name
  | .string _ | .number _ => True
  | .template parts => PartsAreSafe parts
  | .object entries _ _ => EntriesAreSafe inserted entries
  | .array items _ => ExprsAreSafe inserted items
  | .call callee arguments => IsVerbatim inserted callee ∧ ExprsAreSafe inserted arguments
  | .arrow parameters body =>
      (∀ parameter ∈ parameters, IsVerbatim inserted parameter) ∧ body.IsSafe inserted
  | .binary operator left right =>
      left.IsSafe inserted ∧ IsVerbatim inserted operator ∧ right.IsSafe inserted

def PartsAreSafe : List Part → Prop
  | [] => True
  | .text _ :: rest => (∀ value, rest.head? ≠ some (.text value)) ∧ PartsAreSafe rest
  | .insert value :: rest => value.IsSafe true ∧ PartsAreSafe rest

def ExprsAreSafe (inserted : Bool) : List Expr → Prop
  | [] => True
  | item :: rest => item.IsSafe inserted ∧ ExprsAreSafe inserted rest

def EntriesAreSafe (inserted : Bool) : List (String × Expr) → Prop
  | [] => True
  | (_, value) :: rest => value.IsSafe inserted ∧ EntriesAreSafe inserted rest

end

mutual

def Stmt.IsSafe : Stmt → Prop
  | .comment _ | .blockComment .. | .blank => True
  | .importFrom _ whole names =>
      (∀ name ∈ whole, IsVerbatim false name) ∧ ∀ name ∈ names, IsVerbatim false name
  | .declare _ keyword name value =>
      IsVerbatim false keyword ∧ IsVerbatim false name ∧ value.IsSafe false
  | .assign target value => IsVerbatim false target ∧ value.IsSafe false
  | .evaluate value => value.IsSafe false
  | .ifThen condition body => condition.IsSafe false ∧ BodyIsSafe body
  | .function name _ _ body => IsVerbatim false name ∧ BodyIsSafe body
  | .group _ body => BodyIsSafe body
  | .switch subject cases => subject.IsSafe false ∧ CasesAreSafe cases

def BodyIsSafe : List Stmt → Prop
  | [] => True
  | stmt :: rest => stmt.IsSafe ∧ BodyIsSafe rest

def CasesAreSafe : List Case → Prop
  | [] => True
  | .mk value body :: rest => value.IsSafe false ∧ BodyIsSafe body ∧ CasesAreSafe rest

end

def codeTokens (code : String) : List Token := (lex code).getD []

def word (text : String) : Token := .word text.toList

def sign (text : String) : Token := .punctuator text.toList

def stringToken (value : String) : Token := .string '\'' (value.toList.flatMap quotedChar)

def keyTokens (quotesKeys : Bool) (key : String) : List Token :=
  if !quotesKeys && isBareKey key then codeTokens key else [stringToken key]

def listed (inline : Bool) : List (List Token) → List Token
  | [] => []
  | [last] => if inline then last else last ++ [sign ","]
  | part :: rest => part ++ [sign ","] ++ listed inline rest

mutual

def Expr.tokens : Expr → List Token
  | .raw code => codeTokens code
  | .reference name => codeTokens name
  | .string value => [stringToken value]
  | .number value => codeTokens (numberText value)
  | .template parts => partTokens true [] parts
  | .object entries quotesKeys inline =>
      [sign "\x7b"] ++ listed inline (entryTokens quotesKeys entries) ++ [sign "\x7d"]
  | .array items inline => [sign "["] ++ listed inline (exprTokens items) ++ [sign "]"]
  | .call callee arguments =>
      codeTokens callee ++ [sign "("] ++ listed true (exprTokens arguments) ++ [sign ")"]
  | .arrow parameters body =>
      [sign "("] ++ listed true (parameters.map codeTokens) ++ [sign ")", sign "=>"] ++ body.tokens
  | .binary operator left right => left.tokens ++ codeTokens operator ++ right.tokens

def partTokens (opens : Bool) (content : List Char) : List Part → List Token
  | [] => [.template opens true content]
  | .text value :: rest => partTokens opens (content ++ templateChars value.toList) rest
  | .insert value :: rest =>
      [.template opens false content] ++ value.tokens ++ partTokens false [] rest

def exprTokens : List Expr → List (List Token)
  | [] => []
  | item :: rest => item.tokens :: exprTokens rest

def entryTokens (quotesKeys : Bool) : List (String × Expr) → List (List Token)
  | [] => []
  | (key, value) :: rest =>
      (keyTokens quotesKeys key ++ [sign ":"] ++ value.tokens) :: entryTokens quotesKeys rest

end

def importTokens (source : String) (whole : Option String) (names : List String) : List Token :=
  let wholeBinding := match whole with
    | none => []
    | some name => if name = "" then [] else [codeTokens name]
  let nameBindings :=
    if names.isEmpty then []
    else [[sign "\x7b"] ++ listed true (names.map codeTokens) ++ [sign "\x7d"]]
  [word "import"] ++ listed true (wholeBinding ++ nameBindings) ++ [word "from"] ++
    [stringToken source] ++ [sign ";"]

def exportTokens (exported : Bool) : List Token := if exported then [word "export"] else []

def functionHeadTokens (name : String) (exported isDefault : Bool) : List Token :=
  if isDefault then
    [word "export", word "default", word "function", sign "(", sign ")", sign "\x7b"]
  else
    exportTokens exported ++ [word "function"] ++ codeTokens name ++ [sign "(", sign ")", sign "\x7b"]

mutual

def Stmt.tokens : Stmt → List Token
  | .comment _ | .blockComment .. | .blank => []
  | .importFrom source whole names => importTokens source whole names
  | .declare exported keyword name value =>
      exportTokens exported ++ codeTokens keyword ++ codeTokens name ++ [sign "="] ++ value.tokens ++
        [sign ";"]
  | .assign target value => codeTokens target ++ [sign "="] ++ value.tokens ++ [sign ";"]
  | .evaluate value => value.tokens ++ [sign ";"]
  | .ifThen condition body =>
      [word "if", sign "("] ++ condition.tokens ++ [sign ")", sign "\x7b"] ++ bodyTokens body ++
        [sign "\x7d"]
  | .function name exported isDefault body =>
      functionHeadTokens name exported isDefault ++ bodyTokens body ++ [sign "\x7d"]
  | .group label body =>
      [word "group", sign "("] ++ [stringToken label] ++
        [sign ",", word "function", sign "(", sign ")", sign "\x7b"] ++ bodyTokens body ++
        [sign "\x7d", sign ")", sign ";"]
  | .switch subject cases =>
      [word "switch", sign "("] ++ subject.tokens ++ [sign ")", sign "\x7b"] ++ caseTokens cases ++
        [sign "\x7d"]

def bodyTokens : List Stmt → List Token
  | [] => []
  | stmt :: rest => stmt.tokens ++ bodyTokens rest

def caseTokens : List Case → List Token
  | [] => []
  | .mk value body :: rest =>
      [word "case"] ++ value.tokens ++ [sign ":"] ++ bodyTokens body ++ [word "break", sign ";"] ++
        caseTokens rest

end

end LoadScript.Script
