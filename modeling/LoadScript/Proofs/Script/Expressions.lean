import LoadScript.Proofs.Number.Characters
import LoadScript.Proofs.Script.Literals
import LoadScript.Script.PropertyNames
import Mathlib.Data.List.Forall2

/-!
The text of an expression is read as the tokens of the expression.
-/

namespace LoadScript.Script

theorem isVerbatim_of_allNumeric {text : String} (all : Double.AllNumeric text.toList)
    (inserted : Bool) : IsVerbatim inserted text :=
  isVerbatim_of_kind Double.isNumeric (by decide) all inserted

/-- The characters of numerals, and the letters of the names for other numbers and for truth values. -/
theorem characters_numberText (value : Number) : ∀ character ∈ (numberText value).toList,
    (Double.isNumeric character || character.isAlpha) = true := by
  have numeric {text : String} (all : Double.AllNumeric text.toList) : ∀ character ∈ text.toList,
      (Double.isNumeric character || character.isAlpha) = true := by
    intro character member
    rw [all character member, Bool.true_or]
  cases value with
  | whole value => exact numeric (Double.allNumeric_toString value)
  | real value =>
      simp only [numberText]
      split
      · exact numeric (Double.allNumeric_toString _)
      · cases value with
        | notANumber => decide
        | infinity negative => cases negative <;> decide
        | finite negative mantissa exponent => exact numeric (Double.allNumeric_finiteText _ _ _)
  | truth value => cases value <;> decide

theorem isVerbatim_numberText (value : Number) (inserted : Bool) :
    IsVerbatim inserted (numberText value) :=
  isVerbatim_of_kind (fun character => Double.isNumeric character || character.isAlpha) (by decide)
    (characters_numberText value) inserted

variable {insertions : List Nat} {inserted : Bool}

theorem spells_number (value : Number) :
    Spells insertions (numberText value) (codeTokens (numberText value)) :=
  spells_verbatim (isVerbatim_numberText value true) (.inr rfl)

/-! Keys. -/

theorem isIdentifierPart_of_isPlainName {name : List Char} (plain : isPlainName name = true) :
    ∀ character ∈ name, isIdentifierPart character = true := by
  cases name with
  | nil => cases plain
  | cons first rest =>
      rw [isPlainName, Bool.and_eq_true, List.all_eq_true] at plain
      rw [List.forall_mem_cons]
      exact ⟨by rw [isIdentifierPart, plain.1, Bool.true_or], plain.2⟩

theorem not_isPlainName_concat (name : List Char) : isPlainName (name ++ ['\n']) = false := by
  rw [Bool.eq_false_iff]
  intro plain
  have feed := isIdentifierPart_of_isPlainName plain '\n' (by simp)
  revert feed
  decide

theorem fedName?_eq_some_iff {key name : String} :
    fedName? key = some name ↔ isPlainName name.toList = true ∧ key = name ++ "\n" := by
  rw [fedName?]
  constructor
  · intro found
    split at found
    · next fed =>
        simp only [Bool.and_eq_true, decide_eq_true_eq] at fed
        obtain ⟨start, characters⟩ := List.getLast?_eq_some_iff.mp fed.1
        rw [characters, List.dropLast_concat] at fed found
        obtain rfl := Option.some.inj found
        refine ⟨by simpa using fed.2, String.toList_inj.mp ?_⟩
        simp [characters]
    · cases found
  · rintro ⟨plain, rfl⟩
    simp [plain]

theorem isBareKey_eq (key : String) :
    isBareKey key = ((fedName? key).isSome || isPlainName key.toList) := by
  have unfolded : isBareKey key =
      isPlainName (if key.toList.getLast? = some '\n' then key.toList.dropLast else key.toList) := rfl
  rw [unfolded, fedName?]
  split
  · next feed =>
      obtain ⟨start, characters⟩ := List.getLast?_eq_some_iff.mp feed
      rw [characters, List.dropLast_concat, not_isPlainName_concat, Bool.or_false]
      cases isPlainName start <;> simp
  · next noFeed => simp [noFeed]

theorem characters_of_isBareKey {key : String} (bare : isBareKey key = true) :
    ∀ character ∈ key.toList, (isIdentifierPart character || character = '\n') = true := by
  rw [isBareKey_eq, Bool.or_eq_true, Option.isSome_iff_exists] at bare
  intro character member
  rcases bare with ⟨name, fed⟩ | plain
  · obtain ⟨plain, rfl⟩ := fedName?_eq_some_iff.mp fed
    rw [String.toList_append, List.mem_append] at member
    rcases member with inName | feed
    · rw [isIdentifierPart_of_isPlainName plain character inName, Bool.true_or]
    · have only : ∀ other ∈ "\n".toList, (isIdentifierPart other || other = '\n') = true := by decide
      exact only character feed
  · rw [isIdentifierPart_of_isPlainName plain character member, Bool.true_or]

theorem isVerbatim_of_isBareKey {key : String} (bare : isBareKey key = true) (inserted : Bool) :
    IsVerbatim inserted key :=
  isVerbatim_of_kind (fun character => isIdentifierPart character || character = '\n') (by decide)
    (characters_of_isBareKey bare) inserted

theorem spells_key (quotesKeys : Bool) (key : String) :
    Spells insertions (keyText quotesKeys key) (keyTokens quotesKeys key) := by
  rw [keyText, keyTokens]
  split
  · next bare =>
      simp only [Bool.and_eq_true] at bare
      exact spells_verbatim (isVerbatim_of_isBareKey bare.2 true) (.inr rfl)
  · exact (reads_quote key).spells

/-! Lists of parts. -/

theorem spells_intercalate {parts : List String} {tokens : List (List Token)}
    (spelled : List.Forall₂ (Spells insertions) parts tokens) :
    Spells insertions (String.intercalate ", " parts) (listed true tokens) := by
  have comma : Reads insertions ", " [sign ","] insertions := reads_of_advance rfl
  induction spelled with
  | nil => exact (reads_of_advance rfl : Reads insertions "" [] insertions).spells
  | cons first rest ih =>
      cases rest with
      | nil => exact first
      | cons second rest =>
          rw [String.intercalate_cons_cons]
          exact (first.append_reads comma (by decide)).append_spells ih

def IsIndent (unit : String) : Prop := ∀ character ∈ unit.toList, isSpace character = true

variable {unit : String}

theorem mem_of_mem_padding {level : Int} {character : Char}
    (member : character ∈ (padding unit level).toList) : character ∈ unit.toList := by
  simp only [padding, String.toList_join, List.mem_flatMap] at member
  obtain ⟨copy, isCopy, inside⟩ := member
  rwa [List.eq_of_mem_replicate isCopy] at inside

theorem isIndent_padding (indent : IsIndent unit) (level : Int) : IsIndent (padding unit level) :=
  fun character member => indent character (mem_of_mem_padding member)

theorem reads_padding (indent : IsIndent unit) (level : Int) :
    Reads insertions (padding unit level) [] insertions :=
  reads_spaces (isIndent_padding indent level)

theorem reads_rows (indent : IsIndent unit) (level : Int) {parts : List String} {tokens : List (List Token)}
    (spelled : List.Forall₂ (Spells insertions) parts tokens) :
    Reads insertions
      (String.intercalate "\n" (parts.map fun part => padding unit level ++ part ++ ","))
      (listed false tokens) insertions := by
  have row {part : String} {tokens : List Token} (spelled : Spells insertions part tokens) :
      Reads insertions (padding unit level ++ part ++ ",") (tokens ++ [sign ","]) insertions :=
    ((reads_padding indent level).append_spells spelled).append_reads (reads_of_advance rfl) (by decide)
  have feed : Reads insertions "\n" [] insertions := reads_of_advance rfl
  induction spelled with
  | nil => exact reads_of_advance rfl
  | cons first rest ih =>
      cases rest with
      | nil => exact row first
      | cons second rest =>
          rw [List.map_cons, List.map_cons, String.intercalate_cons_cons]
          have read := ((row first).append feed).append ih
          rw [List.append_nil] at read
          exact read

theorem reads_spread (indent : IsIndent unit) (level : Int) {before after : List Nat} {left right : String}
    {leftTokens rightTokens : List Token} (leftRead : Reads before left leftTokens insertions)
    (rightRead : Reads insertions right rightTokens after) {parts : List String}
    {tokens : List (List Token)} (spelled : List.Forall₂ (Spells insertions) parts tokens) :
    Reads before (spread unit level left right parts)
      (leftTokens ++ listed false tokens ++ rightTokens) after := by
  have feed : Reads insertions "\n" [] insertions := reads_of_advance rfl
  have rows := reads_rows indent (level + 1) spelled
  have read := ((((leftRead.append feed).append rows).append feed).append
    (reads_padding indent level)).append rightRead
  simp only [List.append_nil] at read
  exact read

theorem spells_names {names : List String}
    (verbatim : ∀ name ∈ names, IsVerbatim inserted name) (outside : insertions = [] ∨ inserted = true) :
    List.Forall₂ (Spells insertions) names (names.map codeTokens) :=
  List.forall₂_map_right_iff.mpr
    (List.forall₂_same.mpr fun name member => spells_verbatim (verbatim name member) outside)

/-! Expressions. -/

theorem head?_partsText (unit : String) (level : Int) {parts : List Part}
    (noText : ∀ value, parts.head? ≠ some (.text value)) (rest : List Char) :
    ((partsText unit level parts).toList ++ '\x60' :: rest).head? ≠ some '\x7b' := by
  cases parts with
  | nil => simp [partsText]
  | cons part others =>
      cases part with
      | text value => exact absurd rfl (noText value)
      | insert value => simp [partsText]

theorem partsText_insert_append (unit : String) (level : Int) (value : Expr) (others : List Part)
    (rest : List Char) :
    (partsText unit level (.insert value :: others)).toList ++ rest =
      '$' :: '\x7b' :: ((exprText unit level value).toList ++
        '\x7d' :: ((partsText unit level others).toList ++ rest)) := by
  simp [partsText, openBrace, closeBrace]

/-- An insertion is read as the tokens of what it inserts, and the template goes on behind it. -/
theorem lexFrom_insertion {text : String} {tokens : List Token}
    (spelled : Spells (0 :: insertions) text tokens) (opens : Bool) (content rest : List Char) :
    lexFrom ⟨.template opens content, insertions⟩ ('$' :: '\x7b' :: (text.toList ++ '\x7d' :: rest)) =
      (lexFrom ⟨.template false [], insertions⟩ rest).map
        ([.template opens false content] ++ tokens ++ ·) := by
  have opening : advance ⟨.template opens content, insertions⟩ ['$', '\x7b'] =
      some ([.template opens false content], ⟨.between, 0 :: insertions⟩) := rfl
  have closing : lexFrom ⟨.between, 0 :: insertions⟩ ('\x7d' :: rest) =
      lexFrom ⟨.template false [], insertions⟩ rest := lexFrom_cons_silent rfl rest
  have opened := lexFrom_advance opening (text.toList ++ '\x7d' :: rest)
  rw [spelled _ ⟨_, _, rfl, by decide⟩, closing, map_append_tokens] at opened
  exact opened

mutual

/-- An expression is read as its tokens, at every depth of insertions. -/
theorem spells_expr (indent : IsIndent unit) (level : Int) (insertions : List Nat) (inserted : Bool)
    (expr : Expr) (safe : expr.IsSafe inserted) (outside : insertions = [] ∨ inserted = true) :
    Spells insertions (exprText unit level expr) expr.tokens := by
  cases expr with
  | raw code | reference name =>
      rw [exprText, Expr.tokens]
      exact spells_verbatim safe outside
  | string value =>
      rw [exprText, Expr.tokens]
      exact (reads_quote value).spells
  | number value =>
      rw [exprText, Expr.tokens]
      exact spells_number value
  | template parts =>
      have opening : step ⟨.between, insertions⟩ '\x60' =
          some ([], ⟨.template true [], insertions⟩) := rfl
      intro rest _
      rw [exprText, Expr.tokens, ← lexFrom_parts indent level insertions true [] parts safe rest,
        ← lexFrom_cons_silent opening]
      simp
  | object entries quotesKeys inline =>
      have deeper : openBracket insertions = [] ∨ inserted = true :=
        outside.imp (fun top => by rw [top]; rfl) id
      have spelled := spells_entries indent (innerLevel inline level) (openBracket insertions) inserted
        quotesKeys entries safe deeper
      have gap : Reads (openBracket insertions) " " [] (openBracket insertions) := reads_of_advance rfl
      rw [exprText, Expr.tokens]
      split
      · next empty =>
          rw [List.isEmpty_iff.mp empty, entryTokens]
          exact (reads_open.append reads_close).spells
      · split
        · next isInline =>
            rw [isInline] at spelled ⊢
            have read := ((reads_open.append gap).enclose (spells_intercalate spelled) gap
              (by decide)).append reads_close
            simp only [List.append_nil] at read
            exact read.spells
        · next spread =>
            rw [Bool.not_eq_true] at spread
            rw [spread] at spelled ⊢
            exact (reads_spread indent level reads_open reads_close spelled).spells
  | array items inline =>
      have spelled := spells_exprs indent (innerLevel inline level) insertions inserted items safe outside
      have opening : Reads insertions "[" [sign "["] insertions := reads_of_advance rfl
      have closing : Reads insertions "]" [sign "]"] insertions := reads_of_advance rfl
      rw [exprText, Expr.tokens]
      split
      · next empty =>
          rw [List.isEmpty_iff.mp empty, exprTokens]
          exact (reads_of_advance rfl : Reads insertions "[]" [sign "[", sign "]"] insertions).spells
      · split
        · next isInline =>
            rw [isInline] at spelled ⊢
            exact (opening.enclose (spells_intercalate spelled) closing (by decide)).spells
        · next spread =>
            rw [Bool.not_eq_true] at spread
            rw [spread] at spelled ⊢
            exact (reads_spread indent level opening closing spelled).spells
  | call callee arguments =>
      have opening : Reads insertions "(" [sign "("] insertions := reads_of_advance rfl
      have closing : Reads insertions ")" [sign ")"] insertions := reads_of_advance rfl
      have called := (spells_verbatim safe.1 outside).append_reads opening (by decide)
      have spelled := spells_exprs indent level insertions inserted arguments safe.2 outside
      rw [exprText, Expr.tokens]
      exact (called.enclose (spells_intercalate spelled) closing (by decide)).spells
  | arrow parameters body =>
      have spelled := spells_names safe.1 outside
      have opening : Reads insertions "(" [sign "("] insertions := reads_of_advance rfl
      have arrow : Reads insertions ") => " [sign ")", sign "=>"] insertions := reads_of_advance rfl
      rw [exprText, Expr.tokens]
      exact ((opening.append_spells (spells_intercalate spelled)).append_reads arrow
        (by decide)).append_spells (spells_expr indent level insertions inserted body safe.2 outside)
  | binary operator left right =>
      obtain ⟨leftSafe, verbatim, rightSafe⟩ := safe
      have gap : Reads insertions " " [] insertions := reads_of_advance rfl
      have read := ((((spells_expr indent level insertions inserted left leftSafe outside).append_reads gap
        (by decide)).append_spells (spells_verbatim verbatim outside)).append_reads gap
        (by decide)).append_spells
          (spells_expr indent level insertions inserted right rightSafe outside)
      rw [exprText, Expr.tokens]
      simpa only [List.append_nil] using read

theorem lexFrom_parts (indent : IsIndent unit) (level : Int) (insertions : List Nat) (opens : Bool)
    (content : List Char) (parts : List Part) (safe : PartsAreSafe parts) (rest : List Char) :
    lexFrom ⟨.template opens content, insertions⟩
        ((partsText unit level parts).toList ++ '\x60' :: rest) =
      (lexFrom ⟨.between, insertions⟩ rest).map (partTokens opens content parts ++ ·) := by
  cases parts with
  | nil =>
      rw [partsText, partTokens]
      exact lexFrom_cons rfl rest
  | cons part others =>
      cases part with
      | text value =>
          have following := head?_partsText unit level safe.1 rest
          rw [partsText, partTokens, templateText, String.toList_append, String.toList_ofList,
            List.append_assoc, lexFrom_templateChars _ fun _ => following]
          exact lexFrom_parts indent level insertions opens _ others safe.2 rest
      | insert value =>
          have spelled := spells_expr indent level (0 :: insertions) true value safe.1 (.inr rfl)
          have following := lexFrom_parts indent level insertions false [] others safe.2 rest
          rw [partsText_insert_append, lexFrom_insertion spelled, following, partTokens, map_append_tokens]

theorem spells_exprs (indent : IsIndent unit) (level : Int) (insertions : List Nat) (inserted : Bool)
    (items : List Expr) (safe : ExprsAreSafe inserted items)
    (outside : insertions = [] ∨ inserted = true) :
    List.Forall₂ (Spells insertions) (exprTexts unit level items) (exprTokens items) := by
  cases items with
  | nil =>
      rw [exprTexts, exprTokens]
      exact .nil
  | cons item others =>
      rw [exprTexts, exprTokens]
      exact .cons (spells_expr indent level insertions inserted item safe.1 outside)
        (spells_exprs indent level insertions inserted others safe.2 outside)

theorem spells_entries (indent : IsIndent unit) (level : Int) (insertions : List Nat)
    (inserted quotesKeys : Bool) (entries : List (String × Expr))
    (safe : EntriesAreSafe inserted entries) (outside : insertions = [] ∨ inserted = true) :
    List.Forall₂ (Spells insertions) (entryTexts unit level quotesKeys entries)
      (entryTokens quotesKeys entries) := by
  cases entries with
  | nil =>
      rw [entryTexts, entryTokens]
      exact .nil
  | cons entry others =>
      obtain ⟨key, value⟩ := entry
      have colon : Reads insertions ": " [sign ":"] insertions := reads_of_advance rfl
      have read := ((spells_key quotesKeys key).append_reads colon (by decide)).append_spells
        (spells_expr indent level insertions inserted value safe.1 outside)
      rw [entryTexts, entryTokens]
      exact .cons read
        (spells_entries indent level insertions inserted quotesKeys others safe.2 outside)

end

end LoadScript.Script
