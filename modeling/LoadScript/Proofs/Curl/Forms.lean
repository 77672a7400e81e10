import LoadScript.Proofs.Compile.Headers
import LoadScript.Proofs.Curl.Requests
import LoadScript.Proofs.Script.Placeholders
import LoadScript.Proofs.Text.Cutting

/-!
The form of a command: which fields it has, which of them are marked as files, and which content type the request
is imported and sent with.
-/

namespace LoadScript.Curl

open Text

def formArguments (text : List Char) : List (List Char) :=
  finds (readBehind .exact ["--form", "-F"] quoted?) text

/-! What an argument tells. Its key is in front of its first equals sign. -/

def writtenKey (argument : List Char) : List Char := trimChars (argument.takeWhile (· ≠ '='))

def writtenValue (argument : List Char) : List Char :=
  trimChars (argument.dropWhile (· ≠ '=')).tail

def namesFile (argument : List Char) : Bool := (writtenValue argument).head? = some '@'

def fieldOf (argument : List Char) (isFile : Bool) : FormField := {
  key := String.ofList (writtenKey argument)
  value := String.ofList (stripQuotes
    (if namesFile argument then (writtenValue argument).tail else writtenValue argument))
  isFile }

def markedFields (arguments : List (List Char)) : List FormField :=
  arguments.mapIdx fun index argument =>
    fieldOf argument ((arguments.take (index + 1)).any namesFile)

variable {form : Form} {argument : List Char} {text : List Char}

/-! One argument. -/

theorem addField_other (other : '=' ∉ argument) : addField form argument = form := by
  rw [addField, cut?_eq_none_iff.mpr other]

theorem addField_field (field : '=' ∈ argument) :
    addField form argument = {
      fields := form.fields ++ [fieldOf argument (form.hasFile || namesFile argument)]
      hasFile := form.hasFile || namesFile argument } := by
  rw [addField, cut?_of_mem field]
  have value : trimChars (argument.dropWhile (· ≠ '=')).tail = writtenValue argument := rfl
  have key : trimChars (argument.takeWhile (· ≠ '=')) = writtenKey argument := rfl
  rw [fieldOf, namesFile]
  simp only [value, key]
  split
  · next name written => simp [written]
  · next whole other =>
      have notFile : (writtenValue argument).head? ≠ some '@' := by
        intro first
        obtain ⟨name, written⟩ := List.head?_eq_some_iff.mp first
        exact other name written
      simp [notFile]

structure IsMarked (form : Form) : Prop where
  hasFile : form.hasFile = true ↔ ∃ field ∈ form.fields, field.isFile = true
  ordered : form.fields.Pairwise fun before later => before.isFile = true → later.isFile = true

theorem isMarked_empty : IsMarked {} where
  hasFile := by simp
  ordered := .nil

theorem IsMarked.addField (marked : IsMarked form) (argument : List Char) :
    IsMarked (addField form argument) := by
  by_cases field : '=' ∈ argument
  · rw [addField_field field]
    constructor
    case hasFile => simp [marked.hasFile, fieldOf, or_and_right, exists_or]
    case ordered =>
      rw [List.pairwise_append]
      refine ⟨marked.ordered, List.pairwise_singleton _ _, ?_⟩
      intro before member later last file
      rw [List.mem_singleton.mp last, fieldOf, marked.hasFile.mpr ⟨before, member, file⟩, Bool.true_or]
  · rwa [addField_other field]

/-! All arguments. -/

theorem isMarked_foldl (marked : IsMarked form) (arguments : List (List Char)) :
    IsMarked (arguments.foldl addField form) := by
  induction arguments generalizing form with
  | nil => exact marked
  | cons argument rest ih => exact ih (marked.addField argument)

theorem fields_foldl (arguments : List (List Char)) : ∀ form,
    (arguments.foldl addField form).fields = form.fields ++
      (arguments.filter ('=' ∈ ·)).mapIdx fun index argument => fieldOf argument
        (form.hasFile || ((arguments.filter ('=' ∈ ·)).take (index + 1)).any namesFile) := by
  induction arguments with
  | nil => intro form; simp
  | cons argument rest ih =>
      intro form
      rw [List.foldl_cons, ih]
      by_cases field : '=' ∈ argument
      · -- The mark of this field goes over into the form that the rest is added to.
        rw [addField_field field, List.filter_cons_of_pos (by simpa using field)]
        simp [Bool.or_assoc]
      · rw [addField_other field, List.filter_cons_of_neg (by simpa using field)]

theorem form?_of_arguments (given : formArguments text ≠ []) :
    ∃ form, form? text = some form ∧ IsMarked form ∧
      form.fields = markedFields ((formArguments text).filter ('=' ∈ ·)) := by
  refine ⟨(formArguments text).foldl addField {}, ?_, isMarked_foldl isMarked_empty _, ?_⟩
  · obtain ⟨first, rest, arguments⟩ := List.exists_cons_of_ne_nil given
    rw [form?_eq, ← formArguments, arguments]
  · simp [fields_foldl, markedFields]

/-! The content type. -/

theorem requestOf_of_form (given : form? text = some form) :
    (requestOf text).form = some form ∧
      (bodyOf text = "" → (requestOf text).headers = headersOf text ++
        if hasContentType (headersOf text) then [] else [⟨"Content-Type", formContentType form⟩]) := by
  rw [requestOf]
  simp only [given]
  refine ⟨trivial, ?_⟩
  intro noBody
  rw [noBody, if_neg (by decide)]
  cases hasContentType (headersOf text) with
  | true => exact (List.append_nil _).symm
  | false => rfl

theorem hasContentType_iff {headers : List Header} :
    hasContentType headers = true ↔ ∃ header ∈ headers, lower header.key = "content-type" := by
  simp [hasContentType]

theorem find?_contentType {declared headers : List Header} {form : Form}
    (imported : headers = declared ++
      if hasContentType declared then [] else [⟨"Content-Type", formContentType form⟩]) :
    ∃ header, (headers.find? fun header => lower header.key = "content-type") = some header ∧
      (header ∈ declared ∨ header.value = formContentType form) := by
  rw [imported]
  cases contained : hasContentType declared with
  | true =>
      have isSome : (declared.find? fun header => lower header.key = "content-type").isSome :=
        List.find?_isSome.mpr (by simpa using hasContentType_iff.mp contained)
      obtain ⟨header, found⟩ := Option.isSome_iff_exists.mp isSome
      refine ⟨header, ?_, .inl (List.mem_of_find?_eq_some found)⟩
      rw [if_pos rfl, List.append_nil, found]
  | false =>
      have missing : (declared.find? fun header => lower header.key = "content-type") = none := by
        simpa [hasContentType] using contained
      refine ⟨⟨"Content-Type", formContentType form⟩, ?_, .inr rfl⟩
      rw [if_neg (by decide), List.find?_append, missing, Option.none_or]
      exact List.find?_cons_of_pos (decide_eq_true Compile.lower_contentType)

theorem formContentType_ne_default (form : Form) : formContentType form ≠ "application/json" := by
  rw [formContentType]
  split <;> decide

open Compile Script in
/-- An imported form has the fields of its arguments, in their order. From the first file on they are marked, and
the form has a file if one of them is. Without a body of its own, the request is imported with the content type of
the form unless one is declared, and it is sent with one content type, which is the default only as declared. -/
theorem importRequest_form {text : String} (recognised : isCommand (commandOf text.toList) = true)
    (given : formArguments text.toList ≠ []) :
    ∃ imported form, (importRequest text).map Logged.value = .ok imported ∧ imported.form = some form ∧
      form.fields = markedFields ((formArguments text.toList).filter ('=' ∈ ·)) ∧
      (form.fields.Pairwise fun before later => before.isFile = true → later.isFile = true) ∧
      (form.hasFile = true ↔ ∃ field ∈ form.fields, field.isFile = true) ∧
      (bodyOf text.toList = "" →
        (imported.headers = headersOf text.toList ++
          if ∃ header ∈ headersOf text.toList, lower header.key = "content-type" then []
          else [⟨"Content-Type",
            if form.hasFile then "multipart/form-data" else "application/x-www-form-urlencoded"⟩]) ∧
        ∃ header ∈ imported.headers,
          (requestHeaders imported).filter (foldedName · = "content-type") =
            [(header.key, resolve header.value)] ∧
          (resolve header.value = .string "application/json" →
            header ∈ headersOf text.toList ∧ header.value = "application/json")) := by
  obtain ⟨form, found, marked, fields⟩ := form?_of_arguments given
  obtain ⟨hasForm, headers⟩ := requestOf_of_form found
  refine ⟨requestOf text.toList, form, importRequest_eq_ok_iff.mpr ⟨recognised, rfl⟩, hasForm, fields,
    marked.ordered, marked.hasFile, fun noBody => ⟨?imported, ?sent⟩⟩
  case imported =>
    rw [headers noBody]
    simp only [hasContentType_iff]
    rfl
  case sent =>
    obtain ⟨header, first, source⟩ := find?_contentType (headers noBody)
    refine ⟨header, List.mem_of_find?_eq_some first, ?_, ?_⟩
    · rw [filter_requestHeaders, find?_headerCandidates (by decide) (by decide), first]
      rfl
    · intro default
      have value := (resolve_eq_string_iff.mp default).2
      exact ⟨source.resolve_right fun ofForm => formContentType_ne_default form (ofForm ▸ value), value⟩

def uploading : String :=
  "curl -F 'a=b=c' --form \"plain\" -F ' up =@\"f.txt\" ' -H 'X-Id: 1' -F \"b='q'\" -x put"

theorem importRequest_form_uploading :
    isCommand (commandOf uploading.toList) = true ∧ formArguments uploading.toList ≠ [] ∧
      bodyOf uploading.toList = "" ∧
      ∃ imported form, (importRequest uploading).map Logged.value = .ok imported ∧
        imported.form = some form ∧
        form.fields = [⟨"a", "b=c", false⟩, ⟨"up", "f.txt", true⟩, ⟨"b", "q", true⟩] ∧
        form.hasFile = true ∧
        imported.headers = [⟨"X-Id", "1"⟩, ⟨"Content-Type", "multipart/form-data"⟩] := by
  have evaluated : isCommand (commandOf uploading.toList) = true ∧ formArguments uploading.toList ≠ [] ∧
      bodyOf uploading.toList = "" ∧ headersOf uploading.toList = [⟨"X-Id", "1"⟩] ∧
      markedFields ((formArguments uploading.toList).filter ('=' ∈ ·)) =
        [⟨"a", "b=c", false⟩, ⟨"up", "f.txt", true⟩, ⟨"b", "q", true⟩] := by decide +kernel
  obtain ⟨recognised, given, noBody, declared, written⟩ := evaluated
  have undeclared : ¬ ∃ header ∈ [⟨"X-Id", "1"⟩], lower (Header.key header) = "content-type" := by decide +kernel
  obtain ⟨imported, form, read, hasForm, fields, -, hasFile, content⟩ := importRequest_form recognised given
  have isFile : form.hasFile = true := hasFile.mpr (by rw [fields, written]; decide)
  refine ⟨recognised, given, noBody, imported, form, read, hasForm, fields.trans written, isFile, ?_⟩
  rw [(content noBody).1, declared, if_neg undeclared, isFile]
  rfl

end LoadScript.Curl
