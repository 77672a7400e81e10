import LoadScript.Number.Double

/-!
Syntax trees of the scripts.
-/

namespace LoadScript.Script

inductive Number where
  | whole (value : Int)
  | real (value : Double)
  | truth (value : Bool)
deriving DecidableEq, Repr

mutual

/-- Expressions. `raw` code and the names of references stand in the script as they are. An `inline`
object or array is written on one line. -/
inductive Expr where
  | raw (code : String)
  | reference (name : String)
  | string (value : String)
  | number (value : Number)
  | template (parts : List Part)
  | object (entries : List (String × Expr)) (quotesKeys inline : Bool)
  | array (items : List Expr) (inline : Bool)
  | call (callee : String) (arguments : List Expr)
  | arrow (parameters : List String) (body : Expr)
  | binary (operator : String) (left right : Expr)

inductive Part where
  | text (value : String)
  | insert (value : Expr)

end

mutual

inductive Stmt where
  | comment (text : String)
  | blockComment (lines : List String) (isDocumentation : Bool)
  | blank
  | importFrom (source : String) (whole : Option String) (names : List String)
  | declare (exported : Bool) (keyword name : String) (value : Expr)
  | assign (target : String) (value : Expr)
  | evaluate (value : Expr)
  | ifThen (condition : Expr) (body : List Stmt)
  | function (name : String) (exported isDefault : Bool) (body : List Stmt)
  | group (label : String) (body : List Stmt)
  | switch (subject : Expr) (cases : List Case)

inductive Case where
  | mk (value : Expr) (body : List Stmt)

end

def Stmt.constant (name : String) (value : Expr) : Stmt :=
  .declare false "const" name value

def Stmt.isBlank : Stmt → Bool
  | .blank => true
  | _ => false

end LoadScript.Script
