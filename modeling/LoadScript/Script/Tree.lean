import LoadScript.Script.Syntax

/-!
Loosely built trees, in which any node may stand in any place, and their reading as expressions and
statements. The first node out of place, in the order of the text, is reported.
-/

namespace LoadScript.Script

inductive Tree where
  | text (value : String)
  | raw (code : String)
  | reference (name : String)
  | string (value : String)
  | number (value : Number)
  | template (parts : List Tree)
  | object (entries : List (String × Tree)) (quotesKeys inline : Bool)
  | array (items : List Tree) (inline : Bool)
  | call (callee : String) (arguments : List Tree)
  | arrow (parameters : List String) (body : Tree)
  | binary (operator : String) (left right : Tree)
  | comment (text : String)
  | blockComment (lines : List String) (isDocumentation : Bool)
  | blank
  | importFrom (source : String) (whole : Option String) (names : List String)
  | declare (exported : Bool) (keyword name : String) (value : Tree)
  | assign (target : String) (value : Tree)
  | evaluate (value : Tree)
  | ifThen (condition : Tree) (body : List Tree)
  | function (name : String) (exported isDefault : Bool) (body : List Tree)
  | group (label : String) (body : List Tree)
  | switch (subject : Tree) (cases : List Tree)
  | switchCase (value : Tree) (body : List Tree)
deriving Inhabited

def Tree.kindName : Tree → String
  | .text _ => "str"
  | .raw _ => "Raw"
  | .reference _ => "Ref"
  | .string _ => "Str"
  | .number _ => "Num"
  | .template _ => "Template"
  | .object .. => "Obj"
  | .array .. => "Arr"
  | .call .. => "Call"
  | .arrow .. => "Arrow"
  | .binary .. => "BinOp"
  | .comment _ => "Comment"
  | .blockComment .. => "DocComment"
  | .blank => "Blank"
  | .importFrom .. => "Import"
  | .declare .. => "Declare"
  | .assign .. => "Assign"
  | .evaluate _ => "ExprStmt"
  | .ifThen .. => "If"
  | .function .. => "Function"
  | .group .. => "Group"
  | .switch .. => "Switch"
  | .switchCase .. => "Case"

inductive Misplaced where
  | notExpression (kind : String)
  | notStatement (kind : String)
deriving DecidableEq, Repr

def Misplaced.message : Misplaced → String
  | .notExpression kind => "Unsupported expression node: " ++ kind
  | .notStatement kind => "Unsupported statement node: " ++ kind

mutual

def Tree.toExpr : Tree → Except Misplaced Expr
  | .raw code => .ok (.raw code)
  | .reference name => .ok (.reference name)
  | .string value => .ok (.string value)
  | .number value => .ok (.number value)
  | .template parts => do pure (.template (← toParts parts))
  | .object entries quotesKeys inline => do pure (.object (← toEntries entries) quotesKeys inline)
  | .array items inline => do pure (.array (← toExprs items) inline)
  | .call callee arguments => do pure (.call callee (← toExprs arguments))
  | .arrow parameters body => do pure (.arrow parameters (← body.toExpr))
  | .binary operator left right => do
      let left ← left.toExpr
      let right ← right.toExpr
      pure (.binary operator left right)
  | other => .error (.notExpression other.kindName)

def toExprs : List Tree → Except Misplaced (List Expr)
  | [] => .ok []
  | item :: rest => do
      let item ← item.toExpr
      let rest ← toExprs rest
      pure (item :: rest)

def toEntries : List (String × Tree) → Except Misplaced (List (String × Expr))
  | [] => .ok []
  | (key, value) :: rest => do
      let value ← value.toExpr
      let rest ← toEntries rest
      pure ((key, value) :: rest)

def toParts : List Tree → Except Misplaced (List Part)
  | [] => .ok []
  | .text value :: rest => do pure (.text value :: (← toParts rest))
  | other :: rest => do
      let value ← other.toExpr
      let rest ← toParts rest
      pure (.insert value :: rest)

end

mutual

def Tree.toStmt : Tree → Except Misplaced Stmt
  | .comment text => .ok (.comment text)
  | .blockComment lines isDocumentation => .ok (.blockComment lines isDocumentation)
  | .blank => .ok .blank
  | .importFrom source whole names => .ok (.importFrom source whole names)
  | .declare exported keyword name value => do
      pure (.declare exported keyword name (← value.toExpr))
  | .assign target value => do pure (.assign target (← value.toExpr))
  | .evaluate value => do pure (.evaluate (← value.toExpr))
  | .ifThen condition body => do
      let condition ← condition.toExpr
      let body ← toStmts body
      pure (.ifThen condition body)
  | .function name exported isDefault body => do
      pure (.function name exported isDefault (← toStmts body))
  | .group label body => do pure (.group label (← toStmts body))
  | .switch subject cases => do
      let subject ← subject.toExpr
      let cases ← toCases cases
      pure (.switch subject cases)
  | other => .error (.notStatement other.kindName)

def toStmts : List Tree → Except Misplaced (List Stmt)
  | [] => .ok []
  | item :: rest => do
      let item ← item.toStmt
      let rest ← toStmts rest
      pure (item :: rest)

def toCases : List Tree → Except Misplaced (List Case)
  | [] => .ok []
  | .switchCase value body :: rest => do
      let value ← value.toExpr
      let body ← toStmts body
      let rest ← toCases rest
      pure (.mk value body :: rest)
  | other :: _ => .error (.notStatement other.kindName)

end

end LoadScript.Script
