import LoadScript.Proofs.Curl.Requests
import LoadScript.Proofs.Curl.Settled
import LoadScript.Proofs.Curl.WrittenArguments

/-!
What the words of a command tell: whether it is a command, and its method.
-/

namespace LoadScript.Curl

open Text

theorem isCommand_append {blank : Char} (ends : isBlank blank = true) (text rest : List Char) :
    isCommand (text ++ blank :: rest) = isCommand text := by
  have apart : ∀ letter ∈ "curl".toList, letter ≠ blank := by
    have solid : ∀ letter ∈ "curl".toList, isBlank letter = false := by decide
    rintro letter found rfl
    simp [solid letter found] at ends
  rw [isCommand, isCommand, dropStart?_append text rest apart]
  cases dropStart? "curl".toList text with
  | none => rfl
  | some behind =>
      cases behind with
      | nil => exact ends
      | cons next behind => rfl

theorem isCommand_trimChars (text : List Char) :
    isCommand (trimChars text) = ((wordsOf text).head?.map isCommand).getD false := by
  have stops : StopsAt isBlank (trimChars text) :=
    (stopsAt_dropWhile isBlank text).of_start (dropEndWhile_start isBlank _)
  rw [← wordsOf_trimChars]
  generalize trimChars text = trimmed at stops ⊢
  induction trimmed using words_induction with
  | nil => rfl
  | blank blank rest ends _ =>
      rw [stopsAt_cons, ends] at stops
      cases stops
  | word word nonempty solid =>
      rw [wordsOf_word nonempty solid]
      rfl
  | more word blank rest nonempty solid ends _ =>
      rw [wordsOf_append ends, wordsOf_word nonempty solid, isCommand_append ends]
      rfl

def methodIn? : (words : List (List Char)) → Option Method
  | [] => none
  | flag :: words =>
      (if takes .either ["--request", "-x"] flag then
        words.head?.bind fun word => (methodName? word).map Prod.fst
      else none).or (methodIn? words)

theorem methodName?_words (text : List Char) :
    (methodName? (text.dropWhile isBlank)).map Prod.fst =
      (wordsOf text).head?.bind fun word => (methodName? word).map Prod.fst := by
  induction text using words_induction with
  | nil => decide
  | blank blank rest ends ih => rw [List.dropWhile_cons_of_pos ends, wordsOf_cons_blank ends, ih]
  | word word nonempty solid =>
      have stops : StopsAt isBlank word := fun letter first => solid letter (List.mem_of_mem_head? first)
      rw [wordsOf_word nonempty solid, dropWhile_of_stopsAt stops]
      rfl
  | more word blank rest nonempty solid ends _ =>
      have stops : StopsAt isBlank word := fun letter first => solid letter (List.mem_of_mem_head? first)
      have kept : (word ++ blank :: rest).dropWhile isBlank = word ++ blank :: rest := by
        cases word with
        | nil => exact absurd rfl nonempty
        | cons letter word => exact dropWhile_of_stopsAt (stopsAt_cons.mpr (stopsAt_cons.mp stops))
      rw [wordsOf_append ends, wordsOf_word nonempty solid, kept, methodName?_settled ends, Option.map_map]
      rfl

theorem head?_finds_method (text : List Char) :
    (finds (readBehind .either ["--request", "-x"] methodName?) text).head? =
      methodIn? (wordsOf text) := by
  induction text using words_induction with
  | nil => rfl
  | blank blank rest ends ih =>
      rw [wordsOf_cons_blank ends, finds, findAll_blank method_flags ends, ← ih]
      rfl
  | word word nonempty solid =>
      have unread : readBehind .either ["--request", "-x"] methodName? (word ++ []) = none := by
        rw [readBehind, List.append_nil, argument?_of_solid solid]
        rfl
      have nothing := AtTokens.of_word
        (fun inside => readBehind .either ["--request", "-x"] methodName? inside = none) solid unread
      rw [finds, findAll_eq_nil (by simpa using nothing), wordsOf_word nonempty solid]
      simp [methodIn?]
  | more word blank rest nonempty solid ends ih =>
      have read : (readBehind .either ["--request", "-x"] methodName? (word ++ blank :: rest)).map Prod.fst =
          if takes .either ["--request", "-x"] word then
            (wordsOf rest).head?.bind fun word => (methodName? word).map Prod.fst
          else none := by
        rw [readBehind, argument?_word method_flags ends solid, ← methodName?_words]
        split <;> rfl
      rw [wordsOf_append ends, wordsOf_word nonempty solid, List.singleton_append, methodIn?, ← read]
      cases here : readBehind .either ["--request", "-x"] methodName? (word ++ blank :: rest) with
      | some found => exact head?_findAll (by simp) here
      | none =>
          have start := AtTokens.of_word
            (fun inside => readBehind .either ["--request", "-x"] methodName? inside = none) solid here
          rw [finds, findAll_pass start, findAll_blank method_flags ends, Option.map_none,
            Option.none_or, ← ih]
          rfl

theorem methodOf_eq (text : List Char) : methodOf text = (methodIn? (wordsOf text)).getD .get := by
  rw [methodOf_eq_finds, head?_finds_method]

end LoadScript.Curl
