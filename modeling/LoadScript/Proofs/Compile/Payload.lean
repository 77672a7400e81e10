import LoadScript.Compile.Block
import LoadScript.Proofs.Script.Resolved
import LoadScript.Script.Functions

/-!
The payloads of requests: what a body without placeholders becomes on its way into the script and out of it.
-/

namespace LoadScript.Compile

open Script

theorem declaredValues_payload {request : Request} (sends : request.method.hasBody = true)
    (baseUrl : String) (thinkTime : ThinkTime) (headers : List (String × Expr)) :
    declaredValues "payload" (requestBody request baseUrl thinkTime headers) =
      [resolveTemplate request.body] := by
  have extraction : declaredValues "payload" (extractionStmts request.extraction) = [] := by
    rw [extractionStmts]
    split <;> rfl
  have checks : declaredValues "payload" (checkStmts request.checks) = [] := by
    rw [checkStmts]
    split <;> rfl
  have pause : declaredValues "payload" (pauseStmts thinkTime request) = [] := by
    rw [pauseStmts]
    split <;> rfl
  have call : declaredValues "payload" (callStmts request baseUrl) = [resolveTemplate request.body] := by
    rw [callStmts, if_pos sends]
    rfl
  rw [requestBody, declaredValues_append, declaredValues_append, declaredValues_append,
    declaredValues_append, declaredValues_append, extraction, checks, pause, call]
  rfl

/-- The payload of a request whose body has no placeholder is one template without insertions. It stands for
the body with a line feed for every carriage return, alone or before a line feed, and so for the body itself
exactly if the body has no carriage return. -/
theorem payload_stands_for_body (request : Request) (index : Int) (baseUrl : String)
    (thinkTime : ThinkTime) (level : Int) (sends : request.method.hasBody = true)
    (literal : ¬ HasPlaceholder request.body.toList) :
    let body := requestBody request baseUrl thinkTime (headers request).value
    (requestText request index baseUrl thinkTime level).value =
        render standardUnit level [.group request.name body] ∧
      ∃ payload content, declaredValues "payload" body = [payload] ∧
        Encloses '\x60' (exprText standardUnit (level + 1) payload) ∧
        lex (exprText standardUnit (level + 1) payload) = some [.template true true content] ∧
        templateValue? content = some (Text.unifyLineEndsOf request.body.toList) ∧
        (templateValue? content = some request.body.toList ↔ '\r' ∉ request.body.toList) := by
  have value := templateValue?_templateChars request.body.toList
  refine ⟨rfl, resolveTemplate request.body, templateChars request.body.toList,
    declaredValues_payload sends _ _ _, encloses_template _ _ _,
    lex_resolveTemplate_literal literal _ _, value, ?_⟩
  rw [value, Option.some.injEq, Text.unifyLineEndsOf_eq_self_iff]

def uploadOfLines : Request := {
  name := "Upload"
  method := .post
  url := "/upload"
  body := "cost: $5, $\x7b, \\ and \x60\r\nend" }

theorem uploadOfLines_literal : ¬ HasPlaceholder uploadOfLines.body.toList :=
  Gapped.not_hasPlaceholder_of_placeholders (by decide)

theorem payload_stands_for_body_uploadOfLines :
    uploadOfLines.method.hasBody = true ∧ ¬ HasPlaceholder uploadOfLines.body.toList ∧
      ∃ payload content,
        declaredValues "payload" (requestBody uploadOfLines "" {} (headers uploadOfLines).value) =
            [payload] ∧
          lex (exprText standardUnit 2 payload) = some [.template true true content] ∧
          templateValue? content = some "cost: $5, $\x7b, \\ and \x60\nend".toList := by
  obtain ⟨_, payload, content, declared, _, read, value, _⟩ :=
    payload_stands_for_body uploadOfLines 0 "" {} 1 rfl uploadOfLines_literal
  exact ⟨rfl, uploadOfLines_literal, payload, content, declared, read, value⟩

theorem payload_loses_carriageReturn :
    ¬ ∀ (request : Request) (baseUrl : String) (thinkTime : ThinkTime),
      request.method.hasBody = true → ¬ HasPlaceholder request.body.toList →
        ∃ payload content,
          declaredValues "payload" (requestBody request baseUrl thinkTime (headers request).value) =
              [payload] ∧
            lex (exprText standardUnit 2 payload) = some [.template true true content] ∧
            templateValue? content = some request.body.toList := by
  intro preserved
  obtain ⟨payload, content, declared, read, value⟩ :=
    preserved uploadOfLines "" {} rfl uploadOfLines_literal
  rw [declaredValues_payload rfl, List.singleton_inj] at declared
  rw [← declared, lex_resolveTemplate_literal uploadOfLines_literal] at read
  cases read
  rw [templateValue?_templateChars, Option.some.injEq, Text.unifyLineEndsOf_eq_self_iff] at value
  exact value (by decide)

end LoadScript.Compile
