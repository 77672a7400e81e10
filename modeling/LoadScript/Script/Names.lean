import LoadScript.Script.Syntax
import LoadScript.Text.Split

/-!
The names that a script declares, the names that it refers to, and the names that it assigns to. Raw code
is not looked into.
-/

namespace LoadScript.Script

def isWithin (object name : String) : Bool :=
  name = object || Text.startsWith name (object ++ ".")

mutual

def Expr.references : Expr → List String
  | .raw _ | .string _ | .number _ => []
  | .reference name => [name]
  | .template parts => partReferences parts
  | .object entries _ _ => entryReferences entries
  | .array items _ => exprReferences items
  | .call callee arguments => callee :: exprReferences arguments
  | .arrow _ body => body.references
  | .binary _ left right => left.references ++ right.references

def partReferences : List Part → List String
  | [] => []
  | .text _ :: rest => partReferences rest
  | .insert value :: rest => value.references ++ partReferences rest

def exprReferences : List Expr → List String
  | [] => []
  | item :: rest => item.references ++ exprReferences rest

def entryReferences : List (String × Expr) → List String
  | [] => []
  | (_, value) :: rest => value.references ++ entryReferences rest

end

mutual

def Stmt.references : Stmt → List String
  | .comment _ | .blockComment .. | .blank | .importFrom .. => []
  | .declare _ _ _ value => value.references
  | .assign target value => target :: value.references
  | .evaluate value => value.references
  | .ifThen condition body => condition.references ++ bodyReferences body
  | .function _ _ _ body => bodyReferences body
  | .group _ body => bodyReferences body
  | .switch subject cases => subject.references ++ caseReferences cases

def bodyReferences : List Stmt → List String
  | [] => []
  | stmt :: rest => stmt.references ++ bodyReferences rest

def caseReferences : List Case → List String
  | [] => []
  | .mk value body :: rest => value.references ++ bodyReferences body ++ caseReferences rest

end

mutual

def Stmt.targets : Stmt → List String
  | .assign target _ => [target]
  | .ifThen _ body => bodyTargets body
  | .function _ _ _ body => bodyTargets body
  | .group _ body => bodyTargets body
  | .switch _ cases => caseTargets cases
  | _ => []

def bodyTargets : List Stmt → List String
  | [] => []
  | stmt :: rest => stmt.targets ++ bodyTargets rest

def caseTargets : List Case → List String
  | [] => []
  | .mk _ body :: rest => bodyTargets body ++ caseTargets rest

end

def Stmt.declaredNames : Stmt → List String
  | .importFrom _ whole names => whole.toList ++ names
  | .declare _ _ name _ => [name]
  | .function name _ isDefault _ => if isDefault then [] else [name]
  | _ => []

def declaredNames (program : List Stmt) : List String := program.flatMap Stmt.declaredNames

def Stmt.refersTo (stmt : Stmt) (object : String) : Prop :=
  ∃ name ∈ stmt.references, isWithin object name

instance (stmt : Stmt) (object : String) : Decidable (stmt.refersTo object) :=
  inferInstanceAs (Decidable (∃ name ∈ stmt.references, isWithin object name))

def Stmt.assignsTo (stmt : Stmt) (object : String) : Prop :=
  ∃ name ∈ stmt.targets, isWithin object name

@[simp] theorem declaredNames_nil : declaredNames [] = [] := rfl

@[simp] theorem declaredNames_cons (stmt : Stmt) (rest : List Stmt) :
    declaredNames (stmt :: rest) = stmt.declaredNames ++ declaredNames rest := rfl

@[simp] theorem declaredNames_append (first second : List Stmt) :
    declaredNames (first ++ second) = declaredNames first ++ declaredNames second :=
  List.flatMap_append

end LoadScript.Script
