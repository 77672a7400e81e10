import LoadScript.Proofs.Script.Expressions
import LoadScript.Proofs.Script.Statements
import LoadScript.Script.Value

/-!
Literals stand for the texts that they were made of.
-/

namespace LoadScript.Script

/-! Escapes are undone. -/

theorem unescape_plain {character : Char} (notEscape : character ≠ '\\') (rest : List Char) :
    unescape (character :: rest) = (unescape rest).map (character :: ·) := by
  rw [unescape]
  · cases unescape rest <;> simp [notEscape]
  · exact fun _ _ _ _ _ same => absurd same notEscape
  · exact fun _ _ same => absurd same notEscape

theorem unescape_escaped {character meant : Char} (notUnit : character ≠ 'u')
    (means : escapedChar? character = some meant) (rest : List Char) :
    unescape ('\\' :: character :: rest) = (unescape rest).map (meant :: ·) := by
  rw [unescape, means]
  · cases unescape rest <;> rfl
  · exact fun _ _ _ _ _ same => absurd same notUnit

theorem unescape_unit {first second third fourth meant : Char}
    (means : unitChar? [first, second, third, fourth] = some meant) (rest : List Char) :
    unescape ('\\' :: 'u' :: first :: second :: third :: fourth :: rest) =
      (unescape rest).map (meant :: ·) := by
  rw [unescape, means]
  cases unescape rest <;> rfl

theorem templateChars_cons (character : Char) (rest : List Char) :
    (templateChars (character :: rest) = '\\' :: character :: templateChars rest ∧
        character ∈ ['\\', '\x60', '$']) ∨
      templateChars (character :: rest) = character :: templateChars rest ∧ character ≠ '\\' := by
  by_cases insertion : character = '$' ∧ ∃ others, rest = '\x7b' :: others
  · obtain ⟨rfl, others, rfl⟩ := insertion
    exact .inl ⟨by simp [templateChars], by decide⟩
  · have alone : templateChars (character :: rest) =
        if character = '\\' || character = '\x60' then '\\' :: character :: templateChars rest
        else character :: templateChars rest := by
      rw [templateChars]
      exact fun others dollar bracket => insertion ⟨dollar, others, bracket⟩
    rw [alone]
    split
    · next special =>
        simp only [Bool.or_eq_true, decide_eq_true_eq] at special
        refine .inl ⟨rfl, ?_⟩
        rcases special with rfl | rfl <;> decide
    · next plain =>
        simp only [Bool.or_eq_true, decide_eq_true_eq, not_or] at plain
        exact .inr ⟨rfl, plain.1⟩

theorem unescape_marked {character : Char} (marked : character ∈ ['\\', '\x60', '$'])
    (rest : List Char) :
    unescape ('\\' :: character :: rest) = (unescape rest).map (character :: ·) := by
  have means : ∀ mark ∈ ['\\', '\x60', '$'], mark ≠ 'u' ∧ escapedChar? mark = some mark := by decide
  exact unescape_escaped (means character marked).1 (means character marked).2 rest

theorem unescape_templateChars (value rest : List Char) :
    unescape (templateChars value ++ rest) = (unescape rest).map (value ++ ·) := by
  induction value with
  | nil => simp [templateChars]
  | cons character others ih =>
      rcases templateChars_cons character others with ⟨spelled, marked⟩ | ⟨spelled, plain⟩
      · rw [spelled, List.cons_append, List.cons_append, unescape_marked marked, ih, Option.map_map]
        rfl
      · rw [spelled, List.cons_append, unescape_plain plain, ih, Option.map_map]
        rfl

theorem unescape_quotedChar (character : Char) (rest : List Char) :
    unescape (quotedChar character ++ rest) = (unescape rest).map (character :: ·) := by
  rcases quotedChar_cases character with
    ⟨sign, spelled, -, notUnit, means⟩ | ⟨last, spelled, -, means⟩ | ⟨spelled, -, -, notEscape⟩
  · rw [spelled]
    exact unescape_escaped notUnit means rest
  · rw [spelled]
    exact unescape_unit means rest
  · rw [spelled]
    exact unescape_plain notEscape rest

theorem unescape_quoted (value : List Char) : unescape (value.flatMap quotedChar) = some value := by
  induction value with
  | nil => rfl
  | cons character others ih =>
      rw [List.flatMap_cons, unescape_quotedChar, ih]
      rfl

/-! Line ends. -/

theorem head?_templateChars_feed {rest : List Char} (feed : (templateChars rest).head? = some '\n') :
    rest.head? = some '\n' := by
  cases rest with
  | nil => cases feed
  | cons character others =>
      rcases templateChars_cons character others with ⟨spelled, _⟩ | ⟨spelled, _⟩
      · rw [spelled] at feed
        exact absurd feed (by simp)
      · rw [spelled] at feed
        exact feed

theorem templateValue?_templateChars (value : List Char) :
    templateValue? (templateChars value) = some (Text.unifyLineEndsOf value) := by
  rw [templateValue?]
  fun_induction Text.unifyLineEndsOf value with
  | case1 => rfl
  | case2 rest ih =>
      have spelled : templateChars ('\r' :: '\n' :: rest) = '\r' :: '\n' :: templateChars rest := by
        simp [templateChars]
      rw [spelled, Text.unifyLineEndsOf, unescape_plain (by decide), ih]
      rfl
  | case3 character rest noPair ih =>
      rcases templateChars_cons character rest with ⟨spelled, marked⟩ | ⟨spelled, plain⟩
      · have other : character ≠ '\r' := by
          rintro rfl
          exact absurd marked (by decide)
        rw [spelled, Text.unifyLineEndsOf_cons (by simp), Text.unifyLineEndsOf_cons (by simp [other]),
          if_neg (by decide), if_neg other, unescape_marked marked, ih]
        rfl
      -- No escape comes between a carriage return and a line feed, so a pair in the text is one in the value.
      · have apart : character = '\r' → (templateChars rest).head? ≠ some '\n' := by
          intro carriage feed
          obtain ⟨others, behind⟩ := List.head?_eq_some_iff.mp (head?_templateChars_feed feed)
          exact noPair others carriage behind
        have unescaped : (if character = '\r' then '\n' else character) ≠ '\\' := by
          split
          · decide
          · exact plain
        rw [spelled, Text.unifyLineEndsOf_cons apart, unescape_plain unescaped, ih]
        rfl

/-! Templates. -/

namespace Gapped

variable {α : Type} {gapped meant : Gapped α}

theorem unescape?_eq_some_iff :
    gapped.unescape? = some meant ↔
      unescape gapped.first = some meant.first ∧
        (gapped.rest.mapM fun entry => (unescape entry.2).map fun text => (entry.1, text)) =
          some meant.rest := by
  obtain ⟨first, rest⟩ := meant
  simp [unescape?, Option.bind_eq_some_iff]

theorem unescape?_push (value : List Char) (means : gapped.unescape? = some meant) :
    (gapped.push (templateChars value)).unescape? = some (meant.push value) := by
  rw [unescape?_eq_some_iff] at means ⊢
  refine ⟨?_, means.2⟩
  rw [push, unescape_templateChars, means.1]
  rfl

theorem unescape?_gap (item : α) (means : gapped.unescape? = some meant) :
    (gapped.gap item).unescape? = some (meant.gap item) := by
  rw [unescape?_eq_some_iff] at means ⊢
  refine ⟨rfl, ?_⟩
  rw [gap, List.mapM_cons, means.1, means.2]
  rfl

def ofParts (spell : List Char → List Char) : List Part → Gapped (List Token)
  | [] => ⟨[], []⟩
  | .text value :: rest => (ofParts spell rest).push (spell value.toList)
  | .insert value :: rest => (ofParts spell rest).gap value.tokens

theorem unescape?_ofParts (parts : List Part) :
    (ofParts templateChars parts).unescape? = some (ofParts id parts) := by
  induction parts with
  | nil => rfl
  | cons part rest ih =>
      cases part with
      | text value => exact unescape?_push value.toList ih
      | insert value => exact unescape?_gap value.tokens ih

theorem partTokens_eq (parts : List Part) : ∀ opens content,
    partTokens opens content parts =
      insertionTokens opens (content ++ (ofParts templateChars parts).first)
        (ofParts templateChars parts).rest := by
  induction parts with
  | nil =>
      intro opens content
      rw [partTokens, ofParts, List.append_nil, insertionTokens]
  | cons part rest ih =>
      intro opens content
      cases part with
      | text value => rw [partTokens, ih, ofParts, push, List.append_assoc]
      | insert value =>
          rw [partTokens, ih, ofParts, gap, insertionTokens, List.append_nil, List.nil_append]
          rfl

end Gapped

theorem encloses_template (unit : String) (level : Int) (parts : List Part) :
    Encloses '\x60' (exprText unit level (.template parts)) :=
  ⟨(partsText unit level parts).toList, by simp [exprText]⟩

theorem lex_templateText (unit : String) (level : Int) (parts : List Part) :
    lex (exprText unit level (.template parts)) =
      lexFrom ⟨.template true [], []⟩ ((partsText unit level parts).toList ++ ['\x60']) := by
  have opening : step ⟨.between, []⟩ '\x60' = some ([], ⟨.template true [], []⟩) := rfl
  have characters : (exprText unit level (.template parts)).toList =
      '\x60' :: ((partsText unit level parts).toList ++ ['\x60']) := by simp [exprText]
  rw [lex, characters, lexFrom_cons_silent opening]

/-- A template whose texts stand apart is read as its texts, with the tokens of its insertions between
them. -/
theorem lex_template (parts : List Part) (safe : PartsAreSafe parts) :
    lex (exprText standardUnit 0 (.template parts)) = some (Gapped.ofParts templateChars parts).tokens := by
  rw [lex_templateText, lexFrom_parts isIndent_standardUnit 0 [] true [] parts safe [], Gapped.partTokens_eq]
  simp [lexFrom, finish, Mode.pending, Gapped.tokens]

theorem isStringOf_quote (value : String) : IsStringOf (quote value) value.toList := by
  refine ⟨⟨value.toList.flatMap quotedChar, by simp [quote]⟩, _, (reads_quote value).lex_eq, ?_⟩
  exact unescape_quoted value.toList

end LoadScript.Script
