import LoadScript.Script.Printer

/-!
The functions of a script, the values that it declares and exports, and the members of objects.
-/

namespace LoadScript.Script

structure Function where
  name : String
  exported : Bool
  isDefault : Bool
  body : List Stmt

def Function.text (function : Function) : String :=
  functionHead function.name function.exported function.isDefault ++ "\n" ++
    render standardUnit 1 function.body ++ closeBrace ++ "\n"

def Function.stmt (function : Function) : Stmt :=
  .function function.name function.exported function.isDefault function.body

def Stmt.function? : Stmt → Option Function
  | .function name exported isDefault body => some ⟨name, exported, isDefault, body⟩
  | _ => none

def declaredFunctions (program : List Stmt) : List Function := program.filterMap Stmt.function?

def namedExports (program : List Stmt) : List Function :=
  (declaredFunctions program).filter fun function => function.exported && !function.isDefault

def defaultExports (program : List Stmt) : List Function :=
  (declaredFunctions program).filter Function.isDefault

def exportedValues (name : String) (program : List Stmt) : List Expr :=
  program.filterMap fun
    | .declare true _ declared value => if declared = name then some value else none
    | _ => none

def declaredValues (name : String) (body : List Stmt) : List Expr :=
  body.filterMap fun
    | .declare _ _ declared value => if declared = name then some value else none
    | _ => none

def Stmt.isInternal : Stmt → Bool
  | .declare exported .. => !exported
  | .function .. => false
  | _ => true

def Expr.members (key : String) : Expr → List Expr
  | .object entries _ _ => (entries.filter fun entry => entry.1 = key).map Prod.snd
  | _ => []

@[simp] theorem declaredFunctions_append (first second : List Stmt) :
    declaredFunctions (first ++ second) = declaredFunctions first ++ declaredFunctions second :=
  List.filterMap_append

@[simp] theorem exportedValues_append (name : String) (first second : List Stmt) :
    exportedValues name (first ++ second) =
      exportedValues name first ++ exportedValues name second :=
  List.filterMap_append

@[simp] theorem declaredValues_append (name : String) (first second : List Stmt) :
    declaredValues name (first ++ second) = declaredValues name first ++ declaredValues name second :=
  List.filterMap_append

theorem declaredFunctions_eq_nil {program : List Stmt} (internal : program.all Stmt.isInternal = true) :
    declaredFunctions program = [] := by
  rw [List.all_eq_true] at internal
  rw [declaredFunctions, List.filterMap_eq_nil_iff]
  intro stmt member
  have inside := internal stmt member
  cases stmt <;> first | rfl | cases inside

theorem exportedValues_eq_nil {program : List Stmt} (internal : program.all Stmt.isInternal = true)
    (name : String) : exportedValues name program = [] := by
  rw [List.all_eq_true] at internal
  rw [exportedValues, List.filterMap_eq_nil_iff]
  intro stmt member
  have inside := internal stmt member
  cases stmt with
  | declare exported keyword declared value =>
      cases exported with
      | false => rfl
      | true => cases inside
  | _ => rfl

theorem declaredFunctions_spaced (functions : List Function) :
    declaredFunctions (functions.flatMap fun function => [function.stmt, .blank]) = functions := by
  induction functions with
  | nil => rfl
  | cons function rest ih =>
      rw [List.flatMap_cons, declaredFunctions_append, ih]
      rfl

theorem exportedValues_functions (name : String) (functions : List Function) :
    exportedValues name (functions.flatMap fun function => [function.stmt, .blank]) = [] := by
  induction functions with
  | nil => rfl
  | cons function rest ih =>
      rw [List.flatMap_cons, exportedValues_append, ih]
      rfl

theorem declaredValues_functions (name : String) (functions : List Function) :
    declaredValues name (functions.flatMap fun function => [function.stmt, .blank]) = [] := by
  induction functions with
  | nil => rfl
  | cons function rest ih =>
      rw [List.flatMap_cons, declaredValues_append, ih]
      rfl

end LoadScript.Script
