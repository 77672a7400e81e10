import LoadScript.Script.Loose

/-!
A syntax tree that is taken for a loosely built one is read as itself: none of its nodes is out of place.
-/

namespace LoadScript.Script

/-- Only the text parts of a template are no expressions. -/
theorem toParts_insert (value : Expr) (rest : List Tree) :
    toParts (value.toTree :: rest) =
      (do
        let value ← value.toTree.toExpr
        let rest ← toParts rest
        pure (.insert value :: rest)) := by
  cases value <;> rfl

mutual

theorem toExpr_toTree (value : Expr) : value.toTree.toExpr = .ok value := by
  cases value with
  | raw code => rfl
  | reference name => rfl
  | string value => rfl
  | number value => rfl
  | template parts =>
      rw [Expr.toTree, Tree.toExpr, toParts_partTrees parts]
      rfl
  | object entries quotesKeys inline =>
      rw [Expr.toTree, Tree.toExpr, toEntries_entryTrees entries]
      rfl
  | array items inline =>
      rw [Expr.toTree, Tree.toExpr, toExprs_exprTrees items]
      rfl
  | call callee arguments =>
      rw [Expr.toTree, Tree.toExpr, toExprs_exprTrees arguments]
      rfl
  | arrow parameters body =>
      rw [Expr.toTree, Tree.toExpr, toExpr_toTree body]
      rfl
  | binary operator left right =>
      rw [Expr.toTree, Tree.toExpr, toExpr_toTree left, toExpr_toTree right]
      rfl

theorem toExprs_exprTrees (items : List Expr) : toExprs (exprTrees items) = .ok items := by
  match items with
  | [] => rfl
  | item :: rest =>
      rw [exprTrees, toExprs, toExpr_toTree item, toExprs_exprTrees rest]
      rfl

theorem toEntries_entryTrees (entries : List (String × Expr)) :
    toEntries (entryTrees entries) = .ok entries := by
  match entries with
  | [] => rfl
  | (key, value) :: rest =>
      rw [entryTrees, toEntries, toExpr_toTree value, toEntries_entryTrees rest]
      rfl

theorem toParts_partTrees (parts : List Part) : toParts (partTrees parts) = .ok parts := by
  match parts with
  | [] => rfl
  | .text value :: rest =>
      rw [partTrees, toParts, toParts_partTrees rest]
      rfl
  | .insert value :: rest =>
      rw [partTrees, toParts_insert, toExpr_toTree value, toParts_partTrees rest]
      rfl

end

mutual

theorem toStmt_toTree (stmt : Stmt) : stmt.toTree.toStmt = .ok stmt := by
  cases stmt with
  | comment text => rfl
  | blockComment lines isDocumentation => rfl
  | blank => rfl
  | importFrom source whole names => rfl
  | declare exported keyword name value =>
      rw [Stmt.toTree, Tree.toStmt, toExpr_toTree value]
      rfl
  | assign target value =>
      rw [Stmt.toTree, Tree.toStmt, toExpr_toTree value]
      rfl
  | evaluate value =>
      rw [Stmt.toTree, Tree.toStmt, toExpr_toTree value]
      rfl
  | ifThen condition body =>
      rw [Stmt.toTree, Tree.toStmt, toExpr_toTree condition, toStmts_stmtTrees body]
      rfl
  | function name exported isDefault body =>
      rw [Stmt.toTree, Tree.toStmt, toStmts_stmtTrees body]
      rfl
  | group label body =>
      rw [Stmt.toTree, Tree.toStmt, toStmts_stmtTrees body]
      rfl
  | switch subject cases =>
      rw [Stmt.toTree, Tree.toStmt, toExpr_toTree subject, toCases_caseTrees cases]
      rfl

/-- No tree of statements is refused for a node out of place. -/
theorem toStmts_stmtTrees (program : List Stmt) : toStmts (stmtTrees program) = .ok program := by
  match program with
  | [] => rfl
  | stmt :: rest =>
      rw [stmtTrees, toStmts, toStmt_toTree stmt, toStmts_stmtTrees rest]
      rfl

theorem toCases_caseTrees (cases : List Case) : toCases (caseTrees cases) = .ok cases := by
  match cases with
  | [] => rfl
  | .mk value body :: rest =>
      rw [caseTrees, toCases, toExpr_toTree value, toStmts_stmtTrees body, toCases_caseTrees rest]
      rfl

end

end LoadScript.Script
