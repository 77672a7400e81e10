import LoadScript.Proofs.Json.Strings
import LoadScript.Proofs.Number.Characters

/-!
The characters in the text of a document. Whatever its strings hold, they are printed seven-bit characters, the
line feeds of an indentation, and further characters only where these are kept.
-/

namespace LoadScript.Json

open Double (AllNumeric isNumeric)

structure Layout.Allows (layout : Layout) (passes : Char → Prop) : Prop where
  printed : ∀ character : Char, 0x20 ≤ character.toNat → character.toNat < 0x80 → passes character
  kept : layout.keepsUnicode = true → ∀ character : Char, 0x80 ≤ character.toNat → passes character
  feed : layout.indentation ≠ none → passes '\n'

def AllPass (passes : Char → Prop) (text : List Char) : Prop := ∀ character ∈ text, passes character

variable {passes : Char → Prop} {layout : Layout} {first second : List Char} {character : Char}

theorem allPass_append :
    AllPass passes (first ++ second) ↔ AllPass passes first ∧ AllPass passes second :=
  List.forall_mem_append

theorem allPass_cons : AllPass passes (character :: first) ↔ passes character ∧ AllPass passes first :=
  List.forall_mem_cons

theorem allPass_nil : AllPass passes [] := List.forall_mem_nil _

def isPrinted (character : Char) : Bool := 0x20 ≤ character.toNat && character.toNat < 0x80

namespace Layout.Allows

variable (allows : layout.Allows passes)

include allows

theorem passes_of_isPrinted (isPrinted : isPrinted character = true) : passes character := by
  rw [Json.isPrinted, Bool.and_eq_true, decide_eq_true_eq, decide_eq_true_eq] at isPrinted
  exact allows.printed character isPrinted.1 isPrinted.2

theorem allPass_of_all {text : List Char} (all : text.all isPrinted = true) : AllPass passes text :=
  fun character member => allows.passes_of_isPrinted (List.all_eq_true.mp all character member)

theorem allPass_of_allNumeric {text : List Char} (all : AllNumeric text) : AllPass passes text := by
  refine allows.allPass_of_all (List.all_eq_true.mpr fun character member => ?_)
  have numeric := all character member
  rw [isNumeric, Bool.or_eq_true] at numeric
  rcases numeric with digit | mark
  · obtain ⟨least, most⟩ := Char.isDigit_iff_toNat.mp digit
    rw [isPrinted, Bool.and_eq_true, decide_eq_true_eq, decide_eq_true_eq]
    exact ⟨Nat.le_trans (by decide) least, Nat.lt_of_le_of_lt most (by decide)⟩
  · have marks : "-.e+".toList.all isPrinted = true := by decide
    exact List.all_eq_true.mp marks character (List.contains_iff_mem.mp mark)

/-! Strings. -/

theorem allPass_hexDigits (width value : Nat) : AllPass passes (Text.hexDigits width value) := by
  have digit : ∀ digit : Fin 16, isPrinted (Text.hexDigit digit.val) = true := by decide
  induction width generalizing value with
  | zero => exact allPass_nil
  | succ width ih =>
      rw [Text.hexDigits, allPass_append, allPass_cons]
      exact ⟨ih _, allows.passes_of_isPrinted (digit ⟨value % 16, Nat.mod_lt value (by decide)⟩), allPass_nil⟩

theorem allPass_unitEscape (unit : Nat) : AllPass passes (unitEscape unit) := by
  rw [unitEscape, allPass_cons, allPass_cons]
  exact ⟨allows.passes_of_isPrinted (by decide), allows.passes_of_isPrinted (by decide),
    allows.allPass_hexDigits 4 unit⟩

theorem allPass_codeEscape (code : Nat) : AllPass passes (codeEscape code) := by
  rw [codeEscape]
  split
  · exact allows.allPass_unitEscape code
  · exact allPass_append.mpr ⟨allows.allPass_unitEscape _, allows.allPass_unitEscape _⟩

theorem allPass_quotedChar (character : Char) : AllPass passes (quotedChar layout.keepsUnicode character) := by
  rcases quotedChar_cases layout.keepsUnicode character with
    ⟨letter, written, isPrinted, -⟩ | ⟨written, -⟩ | written | ⟨written, printed, stays, -, -⟩
  · rw [written]
    exact allPass_cons.mpr ⟨allows.passes_of_isPrinted (by decide), allPass_cons.mpr
      ⟨allows.printed letter isPrinted.1 isPrinted.2, allPass_nil⟩⟩
  · rw [written]
    exact allows.allPass_unitEscape _
  · rw [written]
    exact allows.allPass_codeEscape _
  · rw [written]
    refine allPass_cons.mpr ⟨?_, allPass_nil⟩
    by_cases sevenBit : character.toNat < 0x80
    · exact allows.printed character printed sevenBit
    · exact allows.kept (stays.resolve_right (by omega)) character (Nat.le_of_not_lt sevenBit)

theorem allPass_quotedText (value : String) : AllPass passes (quotedText layout.keepsUnicode value).toList := by
  have quote : passes '"' := allows.passes_of_isPrinted (by decide)
  rw [quotedText, String.toList_ofList, List.cons_append, allPass_cons, allPass_append]
  refine ⟨quote, ?_, allPass_cons.mpr ⟨quote, allPass_nil⟩⟩
  intro character member
  obtain ⟨source, -, member⟩ := List.mem_flatMap.mp member
  exact allows.allPass_quotedChar source character member

/-! Documents. -/

theorem allPass_realText (value : Double) : AllPass passes (realText value).toList := by
  cases value with
  | notANumber => exact allows.allPass_of_all (by decide)
  | infinity negative => exact allows.allPass_of_all (by cases negative <;> decide)
  | finite negative mantissa exponent =>
      exact allows.allPass_of_allNumeric (Double.allNumeric_finiteText negative mantissa exponent)

theorem allPass_lineBreak (level : Nat) : AllPass passes (lineBreak layout level).toList := by
  rw [lineBreak]
  split
  · exact allPass_nil
  · next width indented =>
      rw [String.toList_ofList, allPass_cons]
      refine ⟨allows.feed (by simp [indented]), fun character member => ?_⟩
      rw [List.eq_of_mem_replicate member]
      exact allows.passes_of_isPrinted (by decide)

theorem allPass_separator (level : Nat) : AllPass passes (separator layout level).toList := by
  rw [separator]
  split
  · exact allows.allPass_of_all (by decide)
  · rw [String.toList_append, allPass_append]
    exact ⟨allows.allPass_of_all (by decide), allows.allPass_lineBreak level⟩

theorem allPass_intercalate (level : Nat) {parts : List String}
    (all : ∀ part ∈ parts, AllPass passes part.toList) :
    AllPass passes (String.intercalate (separator layout level) parts).toList := by
  induction parts with
  | nil => exact allPass_nil
  | cons part parts ih =>
      rw [List.forall_mem_cons] at all
      cases parts with
      | nil =>
          rw [String.intercalate_singleton]
          exact all.1
      | cons next parts =>
          rw [String.intercalate_cons_cons, String.toList_append, String.toList_append, allPass_append,
            allPass_append]
          exact ⟨⟨all.1, allows.allPass_separator level⟩, ih all.2⟩

theorem allPass_enclosed (level : Nat) {left right : String} {parts : List String}
    (brackets : left.toList.all isPrinted = true ∧ right.toList.all isPrinted = true)
    (all : ∀ part ∈ parts, AllPass passes part.toList) :
    AllPass passes (enclosed layout level left right parts).toList := by
  have starts := allows.allPass_of_all brackets.1
  have ends := allows.allPass_of_all brackets.2
  rw [enclosed.eq_def]
  split
  · rw [String.toList_append, allPass_append]
    exact ⟨starts, ends⟩
  · simp only [String.toList_append, allPass_append]
    exact ⟨⟨⟨⟨starts, allows.allPass_lineBreak _⟩, allows.allPass_intercalate (level + 1) all⟩,
      allows.allPass_lineBreak _⟩, ends⟩

end Layout.Allows

mutual

theorem allPass_renderAt (allows : layout.Allows passes) (level : Nat) (document : Json) :
    AllPass passes (renderAt layout level document).toList := by
  cases document with
  | null =>
      rw [renderAt]
      exact allows.allPass_of_all (by decide)
  | boolean value =>
      rw [renderAt]
      exact allows.allPass_of_all (by cases value <;> decide)
  | whole value =>
      rw [renderAt]
      exact allows.allPass_of_allNumeric (Double.allNumeric_toString value)
  | real value =>
      rw [renderAt]
      exact allows.allPass_realText value
  | string value =>
      rw [renderAt]
      exact allows.allPass_quotedText value
  | array items =>
      rw [renderAt]
      exact allows.allPass_enclosed level (by decide) (allPass_renderItems allows (level + 1) items)
  | object members =>
      rw [renderAt]
      exact allows.allPass_enclosed level (by decide) (allPass_renderMembers allows (level + 1) members)

theorem allPass_renderItems (allows : layout.Allows passes) (level : Nat) (items : List Json) :
    ∀ part ∈ renderItems layout level items, AllPass passes part.toList := by
  cases items with
  | nil => exact List.forall_mem_nil _
  | cons item rest =>
      rw [renderItems, List.forall_mem_cons]
      exact ⟨allPass_renderAt allows level item, allPass_renderItems allows level rest⟩

theorem allPass_renderMembers (allows : layout.Allows passes) (level : Nat)
    (members : List (String × Json)) :
    ∀ part ∈ renderMembers layout level members, AllPass passes part.toList := by
  cases members with
  | nil => exact List.forall_mem_nil _
  | cons entry rest =>
      obtain ⟨name, member⟩ := entry
      rw [renderMembers, List.forall_mem_cons, String.toList_append, String.toList_append, allPass_append,
        allPass_append]
      exact ⟨⟨⟨allows.allPass_quotedText name, allows.allPass_of_all (by decide)⟩,
        allPass_renderAt allows level member⟩, allPass_renderMembers allows level rest⟩

end

theorem printed_render (oneLine : layout.indentation = none) (document : Json) :
    ∀ character ∈ (document.render layout).toList, 0x20 ≤ character.toNat :=
  allPass_renderAt {
    printed := fun _ least _ => least
    kept := fun _ _ beyond => Nat.le_trans (by decide) beyond
    feed := fun indented => absurd oneLine indented } 0 document

theorem sevenBit_render (escapes : layout.keepsUnicode = false) (document : Json) :
    ∀ character ∈ (document.render layout).toList, character.toNat < 0x80 :=
  allPass_renderAt {
    printed := fun _ _ most => most
    kept := fun keeps => absurd (escapes.symm.trans keeps) Bool.false_ne_true
    feed := fun _ => by decide } 0 document

end LoadScript.Json
