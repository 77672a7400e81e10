import LoadScript.CommandLine.Command
import LoadScript.Proofs.CommandLine.Directory
import LoadScript.Proofs.Text.Case

/-!
The names of the files that `init` creates: each is one part of a path, so that it names a file of the working
directory.
-/

namespace LoadScript.CommandLine

variable {mark : Char} {part : String}

def isNameCharacter (character : Char) : Bool :=
  Text.isWordCharacter character || 0x61 ≤ character.toNat

theorem isNameCharacter_of_mem_lower {text : String}
    (words : ∀ character ∈ text.toList, Text.isWordCharacter character = true) {character : Char}
    (member : character ∈ (Text.lower text).toList) : isNameCharacter character = true := by
  rw [isNameCharacter, Bool.or_eq_true, decide_eq_true_eq]
  exact (Text.mem_lower member).imp_left (words character)

theorem exists_planFileName (name : String) :
    ∃ stem, Command.planFileName name = stem ++ ".json" ∧
      ∀ character ∈ stem.toList, isNameCharacter character = true := by
  refine ⟨_, rfl, ?_⟩
  split
  · have all : "k6_test".toList.all isNameCharacter = true := by decide
    exact List.all_eq_true.mp all
  · intro character member
    refine isNameCharacter_of_mem_lower ?_ member
    rw [String.toList_ofList, List.forall_mem_map]
    intro given _
    split
    · next isWord => exact isWord
    · decide

theorem notMem_planFileName (noName : isNameCharacter mark = false) (noDot : mark ≠ '.') (name : String) :
    mark ∉ (Command.planFileName name).toList := by
  obtain ⟨stem, same, all⟩ := exists_planFileName name
  have ending : ".json".toList.all (fun character => character = '.' || isNameCharacter character) = true := by
    decide
  rw [same, String.toList_append, List.mem_append]
  rintro (inStem | inEnding)
  · rw [all mark inStem] at noName
    cases noName
  · have one := List.all_eq_true.mp ending mark inEnding
    rw [noName, Bool.or_false, decide_eq_true_eq] at one
    exact noDot one

namespace FilePath

structure IsName (part : String) : Prop extends IsPart part where
  stays : part ≠ ".."

theorem isName_planFileName (name : String) : IsName (Command.planFileName name) := by
  obtain ⟨stem, same, -⟩ := exists_planFileName name
  have longer {text : String} (short : text.toList.length < 5) : Command.planFileName name ≠ text := by
    rintro rfl
    rw [same, String.toList_append, List.length_append] at short
    exact absurd short (Nat.not_lt_of_le (Nat.le_add_left _ _))
  exact {
    nonempty := longer (by decide)
    moves := longer (by decide)
    stays := longer (by decide)
    whole := notMem_planFileName (by decide) (by decide) name }

namespace IsName

theorem ofText_eq (isName : IsName part) : ofText part = { absolute := false, parts := [part] } := by
  have first : part.toList.head? ≠ some '/' := fun slash =>
    isName.whole (List.mem_of_head? slash)
  rw [ofText, Text.splitAt_piece isName.whole, List.map_singleton, String.ofList_toList,
    decide_eq_false first]
  simp [isName.nonempty, isName.moves]

theorem enter_eq (isName : IsName part) : (start (ofText part)).enter part = ofText part := by
  rw [isName.ofText_eq, enter, if_neg isName.stays]
  rfl

theorem resolve_eq (isName : IsName part) : (ofText part).resolve = ofText part := by
  have parts : (ofText part).parts = [part] := congrArg FilePath.parts isName.ofText_eq
  rw [resolve, parts]
  exact isName.enter_eq

theorem text_eq (isName : IsName part) : (ofText part).text = part := by
  rw [isName.ofText_eq, text]
  rfl

end IsName

end FilePath

namespace Directory

variable {directory : Directory} {name : String}

def Holds (directory : Directory) (name : String) : Prop :=
  name ∈ directory.files.map Prod.fst ∨ name ∈ directory.folders ∨
    ∃ file ∈ directory.files, (name ++ "/").toList <+: file.1.toList

theorem target_ofText (directory : Directory) (isName : FilePath.IsName name) :
    directory.target (.ofText name) =
      if nameLimit < name.utf8ByteSize then .unreachable .nameTooLong
      else directory.targetAt (.ofText name) := by
  have parts : (FilePath.ofText name).parts = [name] := congrArg FilePath.parts isName.ofText_eq
  rw [target, isName.text_eq, parts, follow_last, isName.enter_eq]
  split
  · next long =>
      have beyond : nameLimit < name.utf8ByteSize := Nat.lt_trans (by decide) long
      rw [if_pos beyond]
  · rfl

theorem hasFolder_ofText_iff (isName : FilePath.IsName name) :
    directory.hasFolder (.ofText name) = true ↔ name ∈ directory.folders ∨
      ∃ file ∈ directory.files, (name ++ "/").toList <+: file.1.toList := by
  have parts : (FilePath.ofText name).parts = [name] := congrArg FilePath.parts isName.ofText_eq
  simp only [hasFolder, isName.text_eq, parts, Bool.or_eq_true, List.contains_iff_mem, List.any_eq_true,
    List.all_cons, List.all_nil, Bool.and_true, decide_eq_true_eq, isName.stays, false_or,
    Text.startsWith_iff]

theorem targetAt_of_holds (isName : FilePath.IsName name) (holds : directory.Holds name) :
    (∃ contents, directory.targetAt (.ofText name) = .file contents) ∨
      directory.targetAt (.ofText name) = .folder := by
  rw [targetAt, isName.text_eq]
  cases found : directory.files.find? name with
  | some contents => exact .inl ⟨contents, rfl⟩
  | none =>
      have isFolder := holds.resolve_left (Entries.find?_eq_none_iff.mp found)
      exact .inr (if_pos ((hasFolder_ofText_iff isName).mpr isFolder))

theorem targetAt_of_not_holds (isName : FilePath.IsName name) (free : ¬ directory.Holds name) :
    directory.targetAt (.ofText name) = .nothing := by
  rw [Holds, not_or] at free
  rw [targetAt, isName.text_eq, Entries.find?_eq_none_iff.mpr free.1]
  exact if_neg (mt (hasFolder_ofText_iff isName).mp free.2)

end Directory

end LoadScript.CommandLine
