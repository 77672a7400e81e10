import LoadScript.Script.Syntax

/-!
The numbers of a program.
-/

namespace LoadScript.Script

mutual

def Expr.numbers : Expr → List Number
  | .raw _ | .reference _ | .string _ => []
  | .number value => [value]
  | .template parts => partNumbers parts
  | .object entries _ _ => entryNumbers entries
  | .array items _ => exprNumbers items
  | .call _ arguments => exprNumbers arguments
  | .arrow _ body => body.numbers
  | .binary _ left right => left.numbers ++ right.numbers

def partNumbers : List Part → List Number
  | [] => []
  | .text _ :: rest => partNumbers rest
  | .insert value :: rest => value.numbers ++ partNumbers rest

def exprNumbers : List Expr → List Number
  | [] => []
  | item :: rest => item.numbers ++ exprNumbers rest

def entryNumbers : List (String × Expr) → List Number
  | [] => []
  | (_, value) :: rest => value.numbers ++ entryNumbers rest

end

mutual

def Stmt.numbers : Stmt → List Number
  | .comment _ | .blockComment .. | .blank | .importFrom .. => []
  | .declare _ _ _ value => value.numbers
  | .assign _ value => value.numbers
  | .evaluate value => value.numbers
  | .ifThen condition body => condition.numbers ++ bodyNumbers body
  | .function _ _ _ body => bodyNumbers body
  | .group _ body => bodyNumbers body
  | .switch subject cases => subject.numbers ++ caseNumbers cases

def bodyNumbers : List Stmt → List Number
  | [] => []
  | stmt :: rest => stmt.numbers ++ bodyNumbers rest

def caseNumbers : List Case → List Number
  | [] => []
  | .mk value body :: rest => value.numbers ++ bodyNumbers body ++ caseNumbers rest

end

/-! The numbers of lists are those of their members. -/

theorem bodyNumbers_append (first second : List Stmt) :
    bodyNumbers (first ++ second) = bodyNumbers first ++ bodyNumbers second := by
  induction first with
  | nil => rfl
  | cons stmt rest ih => rw [List.cons_append, bodyNumbers, bodyNumbers, ih, List.append_assoc]

theorem mem_bodyNumbers {number : Number} {body : List Stmt} :
    number ∈ bodyNumbers body ↔ ∃ stmt ∈ body, number ∈ stmt.numbers := by
  induction body with
  | nil => simp [bodyNumbers]
  | cons stmt rest ih => simp [bodyNumbers, ih]

theorem mem_exprNumbers {number : Number} {items : List Expr} :
    number ∈ exprNumbers items ↔ ∃ item ∈ items, number ∈ item.numbers := by
  induction items with
  | nil => simp [exprNumbers]
  | cons item rest ih => simp [exprNumbers, ih]

theorem mem_entryNumbers {number : Number} {entries : List (String × Expr)} :
    number ∈ entryNumbers entries ↔ ∃ entry ∈ entries, number ∈ entry.2.numbers := by
  induction entries with
  | nil => simp [entryNumbers]
  | cons entry rest ih => simp [entryNumbers, ih]

theorem entryNumbers_append (first second : List (String × Expr)) :
    entryNumbers (first ++ second) = entryNumbers first ++ entryNumbers second := by
  induction first with
  | nil => rfl
  | cons entry rest ih => rw [List.cons_append, entryNumbers, entryNumbers, ih, List.append_assoc]

@[simp] theorem numbers_constant (name : String) (value : Expr) :
    (Stmt.constant name value).numbers = value.numbers := by
  rw [Stmt.constant, Stmt.numbers]

def Number.isFinite : Number → Bool
  | .whole _ => true
  | .real value => value.finite?.isSome
  | .truth _ => false

end LoadScript.Script
