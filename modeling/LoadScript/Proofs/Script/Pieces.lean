import LoadScript.Proofs.Script.Placeholders

/-!
The pieces of a value are its cut at its placeholders, and there is no other: a placeholder has a dollar sign
at its start alone, so no two of them overlap.
-/

namespace LoadScript.Script

theorem piecesFrom_drop (skip : Nat) (text : List Char) :
    piecesFrom skip text = piecesFrom 0 (text.drop skip) := by
  fun_induction piecesFrom skip text with
  | case1 => simp [piecesFrom]
  | case2 skip character rest ih => rw [ih, List.drop_succ_cons]
  | case3 character rest name found ih => rw [List.drop_zero, piecesFrom, found]
  | case4 character rest none ih => rw [List.drop_zero, piecesFrom, none]

theorem no_dollar_behind {name : List Char} (isName : IsPlaceholderName name) :
    '$' ∉ '\x7b' :: name ++ ['\x7d'] := by
  have noPart : '$' ∉ name := fun member => absurd (isName.all '$' member) (by decide)
  simp [noPart]

theorem HasPlaceholder.cons {text : List Char} (inside : HasPlaceholder text) (character : Char) :
    HasPlaceholder (character :: text) := by
  obtain ⟨name, isName, isInside⟩ := inside
  exact ⟨name, isName, List.infix_cons isInside⟩

/-- A text without placeholders takes part in none either, as long as a dollar sign comes behind it. -/
theorem placeholderAt?_eq_none {character : Char} {first behind : List Char}
    (literal : ¬ HasPlaceholder (character :: first)) (stops : ∀ next ∈ behind.head?, next = '$') :
    placeholderAt? (character :: (first ++ behind)) = Option.none := by
  cases found : placeholderAt? (character :: (first ++ behind)) with
  | none => rfl
  | some name =>
      obtain ⟨isName, more, whole⟩ := placeholderAt?_eq_some_iff.mp found
      rw [← List.cons_append] at whole
      -- A placeholder that went on behind the text would have the dollar sign there inside it.
      rcases List.append_eq_append_iff.mp whole with ⟨inner, text, _⟩ | ⟨inner, text, rest⟩
      · exact absurd ⟨name, isName, [], inner, text.symm⟩ literal
      · cases inner with
        | nil => exact absurd ⟨name, isName, [], [], by simpa using text⟩ literal
        | cons next others =>
            have dollar : next = '$' := stops next (by simp [rest])
            have behindFirst : '\x7b' :: name ++ ['\x7d'] = first ++ next :: others :=
              (List.cons.inj text).2
            have member : '$' ∈ '\x7b' :: name ++ ['\x7d'] := by
              rw [behindFirst, ← dollar]
              simp
            exact absurd member (no_dollar_behind isName)

theorem piecesFrom_literal {text : List Char} (literal : ¬ HasPlaceholder text) (nonempty : text ≠ []) :
    piecesFrom 0 text = [.text text] := by
  induction text with
  | nil => exact absurd rfl nonempty
  | cons character rest ih =>
      have notHere : placeholderAt? (character :: (rest ++ [])) = Option.none :=
        placeholderAt?_eq_none literal (by simp)
      have notBehind : ¬ HasPlaceholder rest := fun behind => literal (behind.cons character)
      rw [List.append_nil] at notHere
      rw [piecesFrom, notHere]
      cases rest with
      | nil => rfl
      | cons next others =>
          simp only [ih notBehind (List.cons_ne_nil _ _)]
          rfl

/-! The pieces are a cut. -/

namespace Gapped

def ofPieces : List Piece → Gapped (List Char)
  | [] => ⟨[], []⟩
  | .text value :: rest => (ofPieces rest).push value
  | .placeholder name :: rest => (ofPieces rest).gap name

theorem ofPieces_pushText (character : Char) (pieces : List Piece) :
    ofPieces (pushText character pieces) = (ofPieces pieces).push [character] := by
  fun_cases pushText character pieces <;> rfl

theorem source_push (text : List Char) (cut : Gapped (List Char)) :
    (cut.push text).source = text ++ cut.source :=
  List.append_assoc ..

theorem source_gap (name : List Char) (cut : Gapped (List Char)) :
    (cut.gap name).source = placeholderText name ++ cut.source := by
  simp [source, gap]

theorem source_piecesFrom (skip : Nat) (text : List Char) :
    (ofPieces (piecesFrom skip text)).source = text.drop skip := by
  fun_induction piecesFrom skip text with
  | case1 => simp [ofPieces, source]
  | case2 skip character rest ih => rw [ih, List.drop_succ_cons]
  | case3 character rest name found ih =>
      obtain ⟨_, more, whole⟩ := placeholderAt?_eq_some_iff.mp found
      have behind : rest.drop (name.length + 2) = more := by
        simp only [placeholderText, List.cons_append, List.cons.injEq] at whole
        rw [← whole.2]
        simp
      rw [ofPieces, source_gap, ih, behind, whole, List.drop_zero]
  | case4 character rest none ih =>
      rw [ofPieces_pushText, source_push, ih, List.drop_zero]
      rfl

theorem names_piecesFrom (skip : Nat) (text : List Char) :
    ∀ entry ∈ (ofPieces (piecesFrom skip text)).rest, IsPlaceholderName entry.1 := by
  fun_induction piecesFrom skip text with
  | case1 =>
      intro entry member
      cases member
  | case2 skip character rest ih => exact ih
  | case3 character rest name found ih =>
      intro entry member
      rcases List.mem_cons.mp member with rfl | later
      · exact (placeholderAt?_eq_some_iff.mp found).1
      · exact ih entry later
  | case4 character rest none ih =>
      rw [ofPieces_pushText]
      exact ih

theorem not_hasPlaceholder_nil : ¬ HasPlaceholder [] := by
  rintro ⟨name, _, inside⟩
  cases List.infix_nil.mp inside

theorem not_hasPlaceholder_cons {character : Char} {first behind : List Char}
    (unread : placeholderAt? (character :: (first ++ behind)) = none) (others : ¬ HasPlaceholder first) :
    ¬ HasPlaceholder (character :: first) := by
  rintro ⟨name, isName, inside⟩
  rcases List.infix_cons_iff.mp inside with here | later
  · have found := placeholderAt?_eq_some_iff.mpr
      ⟨isName, here.trans (List.prefix_append (character :: first) behind)⟩
    rw [List.cons_append, unread] at found
    cases found
  · exact others ⟨name, isName, later⟩

theorem texts_piecesFrom (skip : Nat) (text : List Char) :
    ∀ part ∈ (ofPieces (piecesFrom skip text)).texts, ¬ HasPlaceholder part := by
  fun_induction piecesFrom skip text with
  | case1 =>
      intro part member
      rw [List.mem_singleton.mp member]
      exact not_hasPlaceholder_nil
  | case2 skip character rest ih => exact ih
  | case3 character rest name found ih =>
      intro part member
      rcases List.mem_cons.mp member with rfl | later
      · exact not_hasPlaceholder_nil
      · exact ih part later
  | case4 character rest none ih =>
      have here : placeholderAt? (character :: (ofPieces (piecesFrom 0 rest)).source) = Option.none := by
        rw [source_piecesFrom, List.drop_zero, none]
      intro part member
      rw [ofPieces_pushText] at member
      rcases List.mem_cons.mp member with rfl | later
      · exact not_hasPlaceholder_cons here (ih _ List.mem_cons_self)
      · exact ih part (List.mem_cons_of_mem _ later)

theorem isCutOf_pieces (value : String) : (ofPieces (pieces value)).IsCutOf value.toList where
  source := source_piecesFrom 0 value.toList
  names := names_piecesFrom 0 value.toList
  texts := texts_piecesFrom 0 value.toList

/-! There is no other cut. -/

theorem ofPieces_text {text behind : List Char} (literal : ¬ HasPlaceholder text)
    (stops : ∀ next ∈ behind.head?, next = '$') :
    ofPieces (piecesFrom 0 (text ++ behind)) = (ofPieces (piecesFrom 0 behind)).push text := by
  induction text with
  | nil => rfl
  | cons character rest ih =>
      rw [List.cons_append, piecesFrom, placeholderAt?_eq_none literal stops]
      simp only [ofPieces_pushText]
      rw [ih fun behind => literal (behind.cons character)]
      rfl

theorem ofPieces_placeholder {name : List Char} (isName : IsPlaceholderName name) (behind : List Char) :
    ofPieces (piecesFrom 0 (placeholderText name ++ behind)) =
      (ofPieces (piecesFrom 0 behind)).gap name := by
  have found : placeholderAt? (placeholderText name ++ behind) = some name :=
    placeholderAt?_eq_some_iff.mpr ⟨isName, List.prefix_append _ _⟩
  have whole : placeholderText name ++ behind = '$' :: ('\x7b' :: name ++ '\x7d' :: behind) := by
    simp [placeholderText]
  rw [whole] at found ⊢
  rw [piecesFrom, found]
  simp only [ofPieces]
  rw [piecesFrom_drop]
  simp

theorem ofPieces_source (rest : List (List Char × List Char)) : ∀ first,
    (∀ entry ∈ rest, IsPlaceholderName entry.1) →
    (∀ text ∈ texts ⟨first, rest⟩, ¬ HasPlaceholder text) →
    ofPieces (piecesFrom 0 (source ⟨first, rest⟩)) = ⟨first, rest⟩ := by
  induction rest with
  | nil =>
      intro first _ literal
      have run : ofPieces (piecesFrom 0 (first ++ [])) = (ofPieces (piecesFrom 0 [])).push first :=
        ofPieces_text (literal first List.mem_cons_self) (by simp)
      simpa [source, piecesFrom, ofPieces, push] using run
  | cons entry others ih =>
      intro first names literal
      have whole : source ⟨first, entry :: others⟩ =
          first ++ (placeholderText entry.1 ++ source ⟨entry.2, others⟩) := by simp [source]
      have stops : ∀ next ∈ (placeholderText entry.1 ++ source ⟨entry.2, others⟩).head?, next = '$' := by
        simp [placeholderText]
      have inner := ih entry.2 (fun other member => names other (List.mem_cons_of_mem _ member))
        fun text member => literal text (List.mem_cons_of_mem _ member)
      rw [whole, ofPieces_text (literal first List.mem_cons_self) stops,
        ofPieces_placeholder (names entry List.mem_cons_self), inner]
      simp [gap, push]

theorem isCutOf_iff {cut : Gapped (List Char)} {value : String} :
    cut.IsCutOf value.toList ↔ cut = ofPieces (pieces value) := by
  constructor
  · intro isCut
    have same := ofPieces_source cut.rest cut.first isCut.names isCut.texts
    rw [pieces, ← isCut.source]
    exact same.symm
  · rintro rfl
    exact isCutOf_pieces value

theorem placeholders_eq_gaps (value : String) :
    placeholders value = (ofPieces (pieces value)).rest.map fun entry => String.ofList entry.1 := by
  rw [placeholders_eq]
  induction pieces value with
  | nil => rfl
  | cons piece rest ih =>
      cases piece with
      | text value => exact ih
      | placeholder name => exact congrArg (String.ofList name :: ·) ih

theorem not_hasPlaceholder_of_placeholders {value : String} (noPlaceholders : placeholders value = []) :
    ¬ HasPlaceholder value.toList := by
  have isCut := isCutOf_pieces value
  rw [placeholders_eq_gaps, List.map_eq_nil_iff] at noPlaceholders
  have whole : (ofPieces (pieces value)).first = value.toList := by
    simpa [source, noPlaceholders] using isCut.source
  rw [← whole]
  exact isCut.texts _ List.mem_cons_self

end Gapped

end LoadScript.Script
