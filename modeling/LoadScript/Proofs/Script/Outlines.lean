import LoadScript.Compile.Texts
import LoadScript.Proofs.Script.Placeholders

/-!
Tokens without the text of literals. Texts that stand only in literals and comments do not show in them.
-/

namespace LoadScript.Script

def Expr.outline (expr : Expr) : List Token := expr.tokens.map Token.erased

def Stmt.outline (stmt : Stmt) : List Token := stmt.tokens.map Token.erased

def bodyOutline (body : List Stmt) : List Token := (bodyTokens body).map Token.erased

def caseOutline (cases : List Case) : List Token := (caseTokens cases).map Token.erased

@[simp] theorem bodyOutline_nil : bodyOutline [] = [] := rfl

@[simp] theorem bodyOutline_cons (stmt : Stmt) (rest : List Stmt) :
    bodyOutline (stmt :: rest) = stmt.outline ++ bodyOutline rest := by
  rw [bodyOutline, bodyTokens, List.map_append]
  rfl

theorem bodyOutline_append (first second : List Stmt) :
    bodyOutline (first ++ second) = bodyOutline first ++ bodyOutline second := by
  induction first with
  | nil => rfl
  | cons stmt rest ih => simp [ih]

theorem bodyOutline_flatMap {α : Type} (items : List α) (body : α → List Stmt) :
    bodyOutline (items.flatMap body) = items.flatMap fun item => bodyOutline (body item) := by
  induction items with
  | nil => rfl
  | cons item rest ih => rw [List.flatMap_cons, List.flatMap_cons, bodyOutline_append, ih]

@[simp] theorem outline_blank : Stmt.blank.outline = [] := rfl

@[simp] theorem outline_comment (text : String) : (Stmt.comment text).outline = [] := rfl

@[simp] theorem outline_blockComment (lines : List String) (isDocumentation : Bool) :
    (Stmt.blockComment lines isDocumentation).outline = [] := rfl

theorem outline_string (first second : String) :
    (Expr.string first).outline = (Expr.string second).outline := rfl

/-! Trees with parts of one outline have one outline. -/

section Congruence

variable {firstValue secondValue : Expr} {firstBody secondBody : List Stmt}

theorem outline_declare (exported : Bool) (keyword name : String)
    (values : firstValue.outline = secondValue.outline) :
    (Stmt.declare exported keyword name firstValue).outline =
      (Stmt.declare exported keyword name secondValue).outline := by
  simp only [Expr.outline] at values
  simp only [Stmt.outline, Stmt.tokens, List.map_append, values]

theorem outline_evaluate (values : firstValue.outline = secondValue.outline) :
    (Stmt.evaluate firstValue).outline = (Stmt.evaluate secondValue).outline := by
  simp only [Expr.outline] at values
  simp only [Stmt.outline, Stmt.tokens, List.map_append, values]

theorem outline_function (name : String) (exported isDefault : Bool)
    (bodies : bodyOutline firstBody = bodyOutline secondBody) :
    (Stmt.function name exported isDefault firstBody).outline =
      (Stmt.function name exported isDefault secondBody).outline := by
  simp only [bodyOutline] at bodies
  simp only [Stmt.outline, Stmt.tokens, List.map_append, bodies]

theorem outline_group (firstLabel secondLabel : String)
    (bodies : bodyOutline firstBody = bodyOutline secondBody) :
    (Stmt.group firstLabel firstBody).outline = (Stmt.group secondLabel secondBody).outline := by
  simp only [bodyOutline] at bodies
  simp only [Stmt.outline, Stmt.tokens, List.map_append, bodies]
  rfl

theorem outline_switch (subject : Expr) {firstCases secondCases : List Case}
    (cases : caseOutline firstCases = caseOutline secondCases) :
    (Stmt.switch subject firstCases).outline = (Stmt.switch subject secondCases).outline := by
  simp only [caseOutline] at cases
  simp only [Stmt.outline, Stmt.tokens, List.map_append, cases]

theorem caseOutline_cons (value : Expr) (body : List Stmt) (rest : List Case) :
    caseOutline (.mk value body :: rest) =
      [word "case"] ++ value.outline ++ [sign ":"] ++ bodyOutline body ++ [word "break", sign ";"] ++
        caseOutline rest := by
  simp only [caseOutline, caseTokens, List.map_append, Expr.outline, bodyOutline]
  rfl

theorem outline_binary (operator : String) {firstRight secondRight : Expr}
    (lefts : firstValue.outline = secondValue.outline)
    (rights : firstRight.outline = secondRight.outline) :
    (Expr.binary operator firstValue firstRight).outline =
      (Expr.binary operator secondValue secondRight).outline := by
  simp only [Expr.outline] at lefts rights
  simp only [Expr.outline, Expr.tokens, List.map_append, lefts, rights]

theorem outline_textBefore (text : String) (values : firstValue.outline = secondValue.outline) :
    (Expr.template [.text text, .insert firstValue]).outline =
      (Expr.template [.text text, .insert secondValue]).outline := by
  simp only [Expr.outline] at values
  simp only [Expr.outline, Expr.tokens, partTokens, List.map_append, values]

theorem map_listed (inline : Bool) (parts : List (List Token)) :
    (listed inline parts).map Token.erased = listed inline (parts.map (·.map Token.erased)) := by
  induction parts with
  | nil => rfl
  | cons part rest ih =>
      cases rest with
      | nil => cases inline <;> simp [listed, sign, Token.erased]
      | cons next rest =>
          rw [listed, List.map_append, List.map_append, ih]
          · rfl
          · simp

theorem exprTokens_eq (items : List Expr) : exprTokens items = items.map Expr.tokens := by
  induction items with
  | nil => rfl
  | cons item rest ih => rw [exprTokens, ih, List.map_cons]

theorem entryTokens_eq (quotesKeys : Bool) (entries : List (String × Expr)) :
    entryTokens quotesKeys entries = entries.map fun entry =>
      keyTokens quotesKeys entry.1 ++ [sign ":"] ++ entry.2.tokens := by
  induction entries with
  | nil => rfl
  | cons entry rest ih => rw [entryTokens, ih, List.map_cons]

theorem map_eq_of_forall₂ {α β γ : Type} {shown : α → γ} {alsoShown : β → γ} {first : List α}
    {second : List β} (alike : List.Forall₂ (fun one other => shown one = alsoShown other) first second) :
    first.map shown = second.map alsoShown := by
  induction alike with
  | nil => rfl
  | cons same _ ih => rw [List.map_cons, List.map_cons, same, ih]

theorem flatMap_eq_of_forall₂ {α β γ : Type} {shown : α → List γ} {alsoShown : β → List γ}
    {first : List α} {second : List β}
    (alike : List.Forall₂ (fun one other => shown one = alsoShown other) first second) :
    first.flatMap shown = second.flatMap alsoShown := by
  rw [List.flatMap_def, List.flatMap_def, map_eq_of_forall₂ alike]

theorem exprTokens_outline {first second : List Expr}
    (alike : List.Forall₂ (fun one other => one.outline = other.outline) first second) :
    (exprTokens first).map (·.map Token.erased) = (exprTokens second).map (·.map Token.erased) := by
  rw [exprTokens_eq, exprTokens_eq, List.map_map, List.map_map]
  exact map_eq_of_forall₂ alike

theorem outline_array (inline : Bool) {first second : List Expr}
    (alike : List.Forall₂ (fun one other => one.outline = other.outline) first second) :
    (Expr.array first inline).outline = (Expr.array second inline).outline := by
  simp only [Expr.outline, Expr.tokens, List.map_append, map_listed, exprTokens_outline alike]

theorem outline_call (callee : String) {first second : List Expr}
    (alike : List.Forall₂ (fun one other => one.outline = other.outline) first second) :
    (Expr.call callee first).outline = (Expr.call callee second).outline := by
  simp only [Expr.outline, Expr.tokens, List.map_append, map_listed, exprTokens_outline alike]

def SameEntry (quotesKeys : Bool) (first second : String × Expr) : Prop :=
  (quotesKeys = true ∨ first.1 = second.1) ∧ first.2.outline = second.2.outline

theorem outline_object (quotesKeys inline : Bool) {first second : List (String × Expr)}
    (alike : List.Forall₂ (SameEntry quotesKeys) first second) :
    (Expr.object first quotesKeys inline).outline = (Expr.object second quotesKeys inline).outline := by
  have items : (entryTokens quotesKeys first).map (·.map Token.erased) =
      (entryTokens quotesKeys second).map (·.map Token.erased) := by
    rw [entryTokens_eq, entryTokens_eq, List.map_map, List.map_map]
    apply map_eq_of_forall₂
    refine alike.imp ?_
    rintro ⟨firstKey, firstValue⟩ ⟨secondKey, secondValue⟩ ⟨keys, values⟩
    have keysSame : (keyTokens quotesKeys firstKey).map Token.erased =
        (keyTokens quotesKeys secondKey).map Token.erased := by
      rcases keys with rfl | same
      · rfl
      · rw [show firstKey = secondKey from same]
    simp only [Expr.outline] at values
    simp only [Function.comp_apply, List.map_append, keysSame, values]
  simp only [Expr.outline, Expr.tokens, List.map_append, map_listed, items]

end Congruence

/-! Resolved values. -/

def templateOutline (opens : Bool) : List String → List Token
  | [] => [.template opens true []]
  | name :: rest =>
      [.template opens false []] ++ (codeTokens (referenceName name)).map Token.erased ++
        templateOutline false rest

theorem map_partTokens (pieces : List Piece) : ∀ (opens : Bool) (content : List Char),
    (partTokens opens content (pieces.map Piece.toPart)).map Token.erased =
      templateOutline opens (pieces.filterMap Piece.name?) := by
  induction pieces with
  | nil => intro opens content; rfl
  | cons piece rest ih =>
      intro opens content
      cases piece with
      | text value =>
          rw [List.map_cons, Piece.toPart, partTokens, ih]
          rfl
      | placeholder name =>
          simp only [List.map_cons, Piece.toPart, partTokens, List.map_append, ih]
          rfl

theorem outline_resolveTemplate (value : String) :
    (resolveTemplate value).outline = templateOutline true (placeholders value) := by
  rw [resolveTemplate, Expr.outline, Expr.tokens]
  exact map_partTokens (pieces value) true []

/-- Of a resolved value nothing shows but the placeholders. -/
theorem outline_resolve {first second : String} (same : SamePlaceholders first second) :
    (resolve first).outline = (resolve second).outline := by
  rw [SamePlaceholders] at same
  rw [resolve, resolve, same]
  split
  · rfl
  · rw [outline_resolveTemplate, outline_resolveTemplate, same]

end LoadScript.Script
