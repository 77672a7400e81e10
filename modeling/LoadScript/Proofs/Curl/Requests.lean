import LoadScript.Proofs.Curl.Folding

/-!
A request is made of what the searches find in a text, and of its command.
-/

namespace LoadScript.Curl

open Text

variable {text : List Char}

theorem headersOf_eq (text : List Char) : headersOf text =
    (finds (readBehind .exact ["--header", "-H"] (quotedPair? true)) text).map fun (key, value) =>
      ⟨String.ofList (trimChars key), String.ofList (trimChars value)⟩ := rfl

theorem credentials?_eq (text : List Char) : credentials? text =
    ((finds (readBehind .exact ["--user", "-u"] (quotedPair? false)) text).head? <|>
      (finds (readBehind .exact ["--user", "-u"] barePair?) text).head?).map fun (user, password) =>
        ⟨String.ofList user, String.ofList password⟩ := rfl

theorem bodyOf_eq (text : List Char) : bodyOf text =
    match (finds (readBehind .either ["--data-raw"] quoted?) text).head? <|>
      (finds (readBehind .either ["--data", "-d"] quoted?) text).head? with
    | some body => String.ofList (trimChars body)
    | none => "" := rfl

theorem form?_eq (text : List Char) : form? text =
    match finds (readBehind .exact ["--form", "-F"] quoted?) text with
    | [] => none
    | arguments => some (arguments.foldl addField {}) := rfl

theorem methodOf_eq_finds (text : List Char) : methodOf text =
    (finds (readBehind .either ["--request", "-x"] methodName?) text).head?.getD .get := rfl

theorem bodyOf_of_raw {found : List Char}
    (raw : (finds (readBehind .either ["--data-raw"] quoted?) text).head? = some found) :
    bodyOf text = String.ofList (trimChars found) := by
  rw [bodyOf_eq, raw]
  rfl

theorem commandOf_of_blanks (blanks : ∀ character ∈ text, isBlank character = true) :
    commandOf text = [] := by
  have plain : '\\' ∉ text := fun found => absurd (blanks '\\' found) (by decide)
  have joined := joinLines_plain plain []
  rw [List.append_nil] at joined
  have dropped := dropWhile_run blanks stopsAt_nil
  rw [List.append_nil] at dropped
  rw [commandOf, joined, joinLines, List.append_nil, trimChars, dropped]
  rfl

/-- What is imported, its log included, depends on the request alone. -/
theorem importRequest_of_isCommand {text : String} (recognised : isCommand (commandOf text.toList) = true) :
    importRequest text = .ok (do
      Logged.record .debug importChannel (importMessage (requestOf text.toList))
      pure (requestOf text.toList)) := by
  have shown : ¬isAllBlank text = true := by
    intro blank
    rw [commandOf_of_blanks (List.all_eq_true.mp blank)] at recognised
    exact absurd recognised (by decide)
  rw [importRequest, if_neg shown, if_pos recognised]

theorem importRequest_eq_ok_iff {text : String} {imported : Request} :
    (importRequest text).map Logged.value = .ok imported ↔
      isCommand (commandOf text.toList) = true ∧ imported = requestOf text.toList := by
  by_cases recognised : isCommand (commandOf text.toList) = true
  · rw [importRequest_of_isCommand recognised]
    constructor
    · intro read
      cases read
      exact ⟨recognised, rfl⟩
    · rintro ⟨-, rfl⟩
      rfl
  · refine iff_of_false ?_ fun both => recognised both.1
    rw [importRequest, if_neg recognised]
    split
    · intro read
      cases read
    · intro read
      cases read

end LoadScript.Curl
