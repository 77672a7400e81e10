import LoadScript.Proofs.Curl.Outcomes

/-!
Commands without a body: those in which no flag of data and no flag of a form is a token of its own. The
flags of data are known in letters of either case, the flags of forms only in their own.
-/

namespace LoadScript.Curl

open Text

/-- Whether a text has a token: a part behind white space or at the start, with white space behind it. -/
def HasToken (token text : List Char) : Prop :=
  ∃ before blank after, text = before ++ token ++ blank :: after ∧
    startBehind true before = true ∧ isBlank blank = true

def IsFlagToken : FlagCase → List String → List Char → Prop
  | .exact, names, token => String.ofList token ∈ names
  | .either, names, token => String.ofList (token.map Char.toLower) ∈ names

variable {letterCase : FlagCase} {names : List String} {text : List Char}

theorem AtTokens.of_split {holds : List Char → Prop} {atStart : Bool}
    (all : ∀ before rest, text = before ++ rest → startBehind atStart before = true → holds rest) :
    AtTokens holds atStart text := by
  induction text generalizing atStart with
  | nil => trivial
  | cons character text ih =>
      refine ⟨fun starts => all [] _ rfl starts, ih fun before rest same begins => ?_⟩
      exact all (character :: before) rest (by rw [same]; rfl) begins

theorem AtTokens.at_split {holds : List Char → Prop} {atStart : Bool} {before rest : List Char}
    (all : AtTokens holds atStart (before ++ rest)) (begins : startBehind atStart before = true)
    (nonempty : rest ≠ []) : holds rest := by
  have behind := (AtTokens.append_iff.mp all).2
  rw [begins] at behind
  cases rest with
  | nil => exact absurd rfl nonempty
  | cons character rest => exact behind.1 rfl

/-- Letters other than the s are known by their lower case alone. -/
theorem dropWord?_eq_some_iff {letters rest : List Char} (noS : 's' ∉ letters) :
    dropWord? letters text = some rest ↔
      ∃ token, text = token ++ rest ∧ token.map Char.toLower = letters := by
  fun_induction dropWord? letters text with
  | case1 text => simp [eq_comm]
  | case2 letter letters =>
      refine iff_of_false (Option.some_ne_none rest).symm ?_
      rintro ⟨token, split, lowered⟩
      rw [(List.append_eq_nil_iff.mp split.symm).1] at lowered
      cases lowered
  | case3 letter letters character text same ih =>
      rw [List.mem_cons, not_or] at noS
      have lower : character.toLower = letter := by simpa [sameLetter, Ne.symm noS.1] using same
      rw [ih noS.2]
      constructor
      · rintro ⟨token, rfl, rfl⟩
        exact ⟨character :: token, rfl, by rw [List.map_cons, lower]⟩
      · rintro ⟨token, split, lowered⟩
        cases token with
        | nil => cases lowered
        | cons first token =>
            obtain ⟨-, rfl⟩ := List.cons.inj split
            exact ⟨token, rfl, (List.cons.inj lowered).2⟩
  | case4 letter letters character text other =>
      rw [List.mem_cons, not_or] at noS
      refine iff_of_false (Option.some_ne_none rest).symm ?_
      rintro ⟨token, split, lowered⟩
      cases token with
      | nil => cases lowered
      | cons first token =>
          obtain ⟨rfl, -⟩ := List.cons.inj split
          exact absurd (by simp [sameLetter, (List.cons.inj lowered).1]) other

theorem dropFlag?_eq_some_iff {name : String} {rest : List Char} (noS : 's' ∉ name.toList) :
    dropFlag? letterCase name text = some rest ↔
      ∃ token, text = token ++ rest ∧ IsFlagToken letterCase [name] token := by
  cases letterCase with
  | exact =>
      rw [dropFlag?, dropStart?_eq_some_iff]
      constructor
      · intro split
        exact ⟨name.toList, split, by simp [IsFlagToken]⟩
      · rintro ⟨token, rfl, spelled⟩
        rw [← List.mem_singleton.mp spelled, String.toList_ofList]
  | either =>
      rw [dropFlag?, dropWord?_eq_some_iff noS]
      refine exists_congr fun token => and_congr_right fun _ => ?_
      rw [IsFlagToken, List.mem_singleton, ← String.toList_inj, String.toList_ofList]

theorem IsFlagToken.mem_iff {token : List Char} :
    IsFlagToken letterCase names token ↔ ∃ name ∈ names, IsFlagToken letterCase [name] token := by
  cases letterCase <;> simp [IsFlagToken]

theorem argument?_eq_none_iff :
    argument? letterCase names text = none ↔
      ∀ name ∈ names, ∀ blank rest, isBlank blank = true →
        dropFlag? letterCase name text ≠ some (blank :: rest) := by
  induction names with
  | nil => simp [argument?]
  | cons name names ih =>
      rw [argument?_cons, Option.or_eq_none_iff, ih, List.forall_mem_cons]
      refine and_congr_left fun _ => ?_
      cases dropFlag? letterCase name text with
      | none => simp
      | some behind =>
          cases behind with
          | nil => simp [behindBlanks?]
          | cons first behind =>
              cases ends : isBlank first with
              | false =>
                  have apart (blank : Char) (blankEnds : isBlank blank = true) : first ≠ blank := by
                    rintro rfl
                    simp [ends] at blankEnds
                  simpa [behindBlanks?, ends] using apart
              | true => simp [behindBlanks?, ends]

/-- No flag is a token of a text exactly if no argument begins at the start of a token. -/
theorem noFlagToken_iff (noS : ∀ name ∈ names, 's' ∉ name.toList) :
    (∀ token, HasToken token text → ¬IsFlagToken letterCase names token) ↔
      AtTokens (fun rest => argument? letterCase names rest = none) true text := by
  constructor
  · intro noFlag
    refine .of_split fun before rest split begins => ?_
    rw [argument?_eq_none_iff]
    intro name member blank after ends dropped
    obtain ⟨token, restEq, spelled⟩ := (dropFlag?_eq_some_iff (noS name member)).mp dropped
    refine noFlag token ⟨before, blank, after, ?_, begins, ends⟩ (IsFlagToken.mem_iff.mpr ⟨name, member, spelled⟩)
    rw [split, restEq, List.append_assoc]
  · rintro noFlag token ⟨before, blank, after, split, begins, ends⟩ isFlag
    obtain ⟨name, member, spelled⟩ := IsFlagToken.mem_iff.mp isFlag
    rw [List.append_assoc] at split
    have unread := (split ▸ noFlag).at_split begins (by simp)
    exact argument?_eq_none_iff.mp unread name member blank after ends
      ((dropFlag?_eq_some_iff (noS name member)).mpr ⟨token, rfl, spelled⟩)

theorem finds_eq_nil_of_noFlagToken {α : Type} {read? : List Char → Option (α × List Char)}
    (noS : ∀ name ∈ names, 's' ∉ name.toList)
    (noFlag : ∀ token, HasToken token text → ¬IsFlagToken letterCase names token) :
    finds (readBehind letterCase names read?) text = [] := by
  refine findAll_eq_nil (((noFlagToken_iff noS).mp noFlag).imp fun character rest unread => ?_)
  rw [readBehind, unread]
  rfl

/-- A command has neither a body nor a form if no token of it is a flag of data, in letters of either case, and
no token is a flag of a form. -/
theorem importRequest_bodyless (text : String) (recognised : IsCurl (commandOf text.toList))
    (noData : ∀ token, HasToken token text.toList →
      String.ofList (token.map Char.toLower) ∉ ["--data-raw", "--data", "-d"])
    (noForm : ∀ token, HasToken token text.toList → String.ofList token ∉ ["--form", "-F"]) :
    ∃ imported, importRequest text = .ok imported ∧ imported.value.body = "" ∧
      imported.value.form = none := by
  have raw : finds (readBehind .either ["--data-raw"] quoted?) text.toList = [] :=
    finds_eq_nil_of_noFlagToken (by decide) fun token found isFlag =>
      noData token found (List.mem_of_mem_head? (List.mem_singleton.mp isFlag ▸ rfl))
  have data : finds (readBehind .either ["--data", "-d"] quoted?) text.toList = [] :=
    finds_eq_nil_of_noFlagToken (by decide) fun token found isFlag =>
      noData token found (List.mem_cons_of_mem _ isFlag)
  have form : finds (readBehind .exact ["--form", "-F"] quoted?) text.toList = [] :=
    finds_eq_nil_of_noFlagToken (by decide) noForm
  refine ⟨_, importRequest_of_isCommand (isCommand_iff.mpr recognised), ?_⟩
  simp [requestOf, bodyOf_eq, form?_eq, raw, data, form]

theorem importRequest_bodyless_otherForm :
    let text := "curl http://h/ --FORM 'a=b' -data 'c'"
    ∃ imported, importRequest text = .ok imported ∧ imported.value.body = "" ∧
      imported.value.form = none := by
  intro text
  have recognised : IsCurl (commandOf text.toList) := isCommand_iff.mp (by decide)
  have noData : AtTokens (fun rest => argument? .either ["--data-raw", "--data", "-d"] rest = none) true
      text.toList := by decide +kernel
  have noForm : AtTokens (fun rest => argument? .exact ["--form", "-F"] rest = none) true
      text.toList := by decide +kernel
  exact importRequest_bodyless text recognised ((noFlagToken_iff (by decide)).mpr noData)
    ((noFlagToken_iff (by decide)).mpr noForm)

/-- The flag of a file for the headers of a response is taken for a flag of data. -/
theorem importRequest_dumpHeader :
    let text := "curl 'https://a' -D 'headers.txt'"
    IsCurl (commandOf text.toList) ∧
      (∀ token, HasToken token text.toList →
        String.ofList token ∉ ["--data-raw", "--data", "-d", "--form", "-F"]) ∧
      ∃ imported, importRequest text = .ok imported ∧ imported.value.body = "headers.txt" := by
  intro text
  have recognised : IsCurl (commandOf text.toList) := isCommand_iff.mp (by decide)
  have noFlag : AtTokens (fun rest => argument? .exact
      ["--data-raw", "--data", "-d", "--form", "-F"] rest = none) true text.toList := by decide +kernel
  have body : (requestOf text.toList).body = "headers.txt" := by decide +kernel
  exact ⟨recognised, (noFlagToken_iff (by decide)).mpr noFlag, _,
    importRequest_of_isCommand (isCommand_iff.mpr recognised), body⟩

end LoadScript.Curl
