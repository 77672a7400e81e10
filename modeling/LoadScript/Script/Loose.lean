import LoadScript.Script.Tree

/-!
Syntax trees as loosely built ones: each node keeps its place.
-/

namespace LoadScript.Script

mutual

def Expr.toTree : Expr → Tree
  | .raw code => .raw code
  | .reference name => .reference name
  | .string value => .string value
  | .number value => .number value
  | .template parts => .template (partTrees parts)
  | .object entries quotesKeys inline => .object (entryTrees entries) quotesKeys inline
  | .array items inline => .array (exprTrees items) inline
  | .call callee arguments => .call callee (exprTrees arguments)
  | .arrow parameters body => .arrow parameters body.toTree
  | .binary operator left right => .binary operator left.toTree right.toTree

def exprTrees : List Expr → List Tree
  | [] => []
  | item :: rest => item.toTree :: exprTrees rest

def entryTrees : List (String × Expr) → List (String × Tree)
  | [] => []
  | (key, value) :: rest => (key, value.toTree) :: entryTrees rest

def partTrees : List Part → List Tree
  | [] => []
  | .text value :: rest => .text value :: partTrees rest
  | .insert value :: rest => value.toTree :: partTrees rest

end

mutual

def Stmt.toTree : Stmt → Tree
  | .comment text => .comment text
  | .blockComment lines isDocumentation => .blockComment lines isDocumentation
  | .blank => .blank
  | .importFrom source whole names => .importFrom source whole names
  | .declare exported keyword name value => .declare exported keyword name value.toTree
  | .assign target value => .assign target value.toTree
  | .evaluate value => .evaluate value.toTree
  | .ifThen condition body => .ifThen condition.toTree (stmtTrees body)
  | .function name exported isDefault body => .function name exported isDefault (stmtTrees body)
  | .group label body => .group label (stmtTrees body)
  | .switch subject cases => .switch subject.toTree (caseTrees cases)

def stmtTrees : List Stmt → List Tree
  | [] => []
  | stmt :: rest => stmt.toTree :: stmtTrees rest

def caseTrees : List Case → List Tree
  | [] => []
  | .mk value body :: rest => .switchCase value.toTree (stmtTrees body) :: caseTrees rest

end

end LoadScript.Script
