import LoadScript.Proofs.Curl.Methods
import LoadScript.Proofs.Curl.Requests

/-!
What becomes of any text. It is imported unless it is blank or the command of something else, and whatever
is written for a method in it is the name of one.
-/

namespace LoadScript.Curl

open Text

variable {command : List Char}

def IsCurl (command : List Char) : Prop :=
  command = "curl".toList ∨
    ∃ blank rest, isBlank blank = true ∧ command = "curl".toList ++ blank :: rest

def writtenMethods (command : List Char) : List (List Char) :=
  finds (readBehind .either ["--request", "-x"] methodText?) command

def namedMethod? (written : List Char) : Option Method := Method.ofName? (upper (String.ofList written))

theorem isCommand_iff : isCommand command = true ↔ IsCurl command := by
  constructor
  · intro recognised
    rw [isCommand] at recognised
    split at recognised
    · next dropped =>
        rw [eq_append_of_dropStart? dropped, List.append_nil]
        exact .inl rfl
    · next blank rest dropped =>
        exact .inr ⟨blank, rest, recognised, eq_append_of_dropStart? dropped⟩
    · cases recognised
  · rintro (rfl | ⟨blank, rest, divides, rfl⟩)
    · decide
    · exact divides

theorem exists_named_of_mem {written : List Char} (found : written ∈ writtenMethods command) :
    ∃ method, namedMethod? written = some method := by
  obtain ⟨inside, after, read⟩ := exists_of_mem_findAll found
  obtain ⟨argument, -, captured⟩ := Option.bind_eq_some_iff.mp read
  exact ofName?_of_methodText? captured

theorem methodName?_eq_map (text : List Char) :
    methodName? text =
      (methodText? text).map fun found => ((namedMethod? found.1).getD .get, found.2) := by
  rw [methodName?]
  cases captured : methodText? text with
  | none => rfl
  | some found =>
      obtain ⟨method, named⟩ := ofName?_of_methodText? captured
      simp [namedMethod?, named]

theorem methodOf_eq_written (command : List Char) :
    some (methodOf command) = (writtenMethods command).head?.elim (some .get) namedMethod? := by
  have reads (text : List Char) : readBehind .either ["--request", "-x"] methodName? text =
      (readBehind .either ["--request", "-x"] methodText? text).map
        fun found => ((namedMethod? found.1).getD .get, found.2) := by
    rw [readBehind, readBehind, Option.map_bind]
    congr 1
    funext argument
    exact methodName?_eq_map argument
  have found : finds (readBehind .either ["--request", "-x"] methodName?) command =
      (writtenMethods command).map fun written => (namedMethod? written).getD .get :=
    findAll_map (fun written => (namedMethod? written).getD .get) reads true 0 command
  rw [methodOf_eq_finds, found, List.head?_map]
  cases first : (writtenMethods command).head? with
  | none => rfl
  | some written =>
      obtain ⟨method, named⟩ := exists_named_of_mem (List.mem_of_head? first)
      simp [named]

/-- A text is refused as empty exactly if it is blank, as unknown exactly if it is not blank and no command,
and it is imported in all other cases. -/
theorem importRequest_outcome (text : String) :
    (importRequest text = .error .emptyInput ↔ isAllBlank text = true) ∧
      (importRequest text = .error .notRecognized ↔
        isAllBlank text = false ∧ ¬ IsCurl (commandOf text.toList)) ∧
      ((∃ imported, importRequest text = .ok imported) ↔
        isAllBlank text = false ∧ IsCurl (commandOf text.toList)) ∧
      (∀ written ∈ writtenMethods (commandOf text.toList),
        ∃ method, namedMethod? written = some method) ∧
      ∀ imported, importRequest text = .ok imported →
        some imported.value.method =
          (writtenMethods (commandOf text.toList)).head?.elim (some .get) namedMethod? := by
  have outcomes : (importRequest text = .error .emptyInput ↔ isAllBlank text = true) ∧
      (importRequest text = .error .notRecognized ↔
        isAllBlank text = false ∧ ¬ IsCurl (commandOf text.toList)) ∧
      ((∃ imported, importRequest text = .ok imported) ↔
        isAllBlank text = false ∧ IsCurl (commandOf text.toList)) := by
    rw [importRequest, ← isCommand_iff]
    by_cases blank : isAllBlank text = true <;>
      by_cases recognised : isCommand (commandOf text.toList) = true <;> simp [blank, recognised]
  refine ⟨outcomes.1, outcomes.2.1, outcomes.2.2, fun written found => exists_named_of_mem found, ?_⟩
  intro imported read
  have value : (importRequest text).map Logged.value = .ok imported.value := by
    rw [read]
    rfl
  rw [(importRequest_eq_ok_iff.mp value).2]
  exact methodOf_eq_written (commandOf text.toList)

/-- The long s is read as an s, and in upper case it is one. -/
theorem importRequest_outcome_longS : ∃ imported,
    importRequest "curl -X poſt http://h/" = .ok imported ∧ imported.value.method = .post := by
  have outcome := importRequest_outcome "curl -X poſt http://h/"
  have command : IsCurl (commandOf "curl -X poſt http://h/".toList) :=
    .inr ⟨' ', "-X poſt http://h/".toList, by decide, by decide⟩
  obtain ⟨imported, read⟩ := outcome.2.2.1.mpr ⟨by decide, command⟩
  refine ⟨imported, read, Option.some.inj ?_⟩
  rw [outcome.2.2.2.2 imported read]
  decide +kernel

end LoadScript.Curl
