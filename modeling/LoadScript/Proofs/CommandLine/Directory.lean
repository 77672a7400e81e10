import LoadScript.CommandLine.Directory
import LoadScript.Proofs.Entries
import LoadScript.Proofs.Text.Cutting

/-!
A file that is written is there afterwards, under the path that it was written to: the folders on the way are
still folders, and the path still leads through them.
-/

namespace LoadScript.CommandLine

namespace FilePath

structure IsPart (part : String) : Prop where
  nonempty : part ≠ ""
  moves : part ≠ "."
  whole : '/' ∉ part.toList

def IsPlain (path : FilePath) : Prop := ∀ part ∈ path.parts, IsPart part

theorem isPart_up : IsPart ".." := ⟨by decide, by decide, by decide⟩

theorem ofText_isPlain (text : String) : (ofText text).IsPlain := by
  intro part member
  simp only [ofText, List.mem_filter, List.mem_map, Bool.and_eq_true, bne_iff_ne] at member
  obtain ⟨⟨piece, inside, rfl⟩, nonempty, moves⟩ := member
  refine ⟨nonempty, moves, ?_⟩
  rw [String.toList_ofList]
  exact Text.notMem_splitAt _ piece inside

theorem start_isPlain (path : FilePath) : path.start.IsPlain := by simp [IsPlain, start]

theorem IsPlain.child {path : FilePath} (plain : path.IsPlain) {part : String} (isPart : IsPart part) :
    (path.child part).IsPlain := by
  intro other member
  rcases List.mem_append.mp member with before | last
  · exact plain other before
  · rwa [List.mem_singleton.mp last]

theorem IsPlain.enter {path : FilePath} (plain : path.IsPlain) {part : String} (isPart : IsPart part) :
    (path.enter part).IsPlain := by
  rw [FilePath.enter]
  split
  · rw [parent]
    split
    · exact fun other member => plain other (List.dropLast_subset _ member)
    · split
      · exact plain
      · exact plain.child isPart_up
  · exact plain.child isPart

@[simp] theorem enter_absolute (path : FilePath) (part : String) :
    (path.enter part).absolute = path.absolute := by
  rw [enter]
  split
  · rw [parent]
    repeat' split
    all_goals rfl
  · rfl

theorem foldl_enter_absolute (parts : List String) (path : FilePath) :
    (parts.foldl enter path).absolute = path.absolute := by
  induction parts generalizing path with
  | nil => rfl
  | cons part parts ih => rw [List.foldl_cons, ih, enter_absolute]

theorem IsPlain.foldl_enter {path : FilePath} (plain : path.IsPlain) {parts : List String}
    (all : ∀ part ∈ parts, IsPart part) : (parts.foldl FilePath.enter path).IsPlain := by
  induction parts generalizing path with
  | nil => exact plain
  | cons part parts ih =>
      rw [List.forall_mem_cons] at all
      exact ih (plain.enter all.1) all.2

theorem splitAt_intercalate {parts : List String} (nonempty : parts ≠ [])
    (all : ∀ part ∈ parts, IsPart part) :
    Text.splitAt '/' (String.intercalate "/" parts).toList = parts.map String.toList := by
  rw [String.toList_intercalate]
  apply Text.splitAt_intercalate
  · simpa using nonempty
  · intro piece member
    obtain ⟨part, inside, rfl⟩ := List.mem_map.mp member
    exact (all part inside).whole

/-- The pieces of a path's text between its slashes: the parts, with nothing in front of the first slash of
an absolute path, and with one piece that is no part where there are none. -/
theorem splitAt_text {path : FilePath} (plain : path.IsPlain) :
    Text.splitAt '/' path.text.toList =
      if path.absolute then [] :: (if path.parts = [] then [[]] else path.parts.map String.toList)
      else if path.parts = [] then [['.']] else path.parts.map String.toList := by
  rw [text]
  by_cases noParts : path.parts = []
  · cases path.absolute <;> simp [noParts, Text.splitAt]
  · have pieces := splitAt_intercalate noParts plain
    cases path.absolute with
    | false =>
        rw [if_neg Bool.false_ne_true, if_neg (by simpa using noParts), pieces, if_neg Bool.false_ne_true,
          if_neg noParts]
    | true =>
        have slash : ("/" ++ String.intercalate "/" path.parts).toList =
            '/' :: (String.intercalate "/" path.parts).toList := by
          rw [String.toList_append]
          rfl
        rw [if_pos rfl, slash, Text.splitAt_cons_mark, pieces]
        simp [noParts]

theorem parts_injective {root : List Char} {first second : List String}
    (firstApart : ∀ part ∈ first, part.toList ≠ root) (secondApart : ∀ part ∈ second, part.toList ≠ root)
    (same : (if first = [] then [root] else first.map String.toList) =
      if second = [] then [root] else second.map String.toList) : first = second := by
  split at same
  · next noParts =>
      split at same
      · next neitherParts => rw [noParts, neitherParts]
      · have member : root ∈ second.map String.toList := same ▸ List.mem_singleton_self root
        obtain ⟨part, inside, isRoot⟩ := List.mem_map.mp member
        exact absurd isRoot (secondApart part inside)
  · split at same
    · have member : root ∈ first.map String.toList := same ▸ List.mem_singleton_self root
      obtain ⟨part, inside, isRoot⟩ := List.mem_map.mp member
      exact absurd isRoot (firstApart part inside)
    · exact (List.map_inj_right fun _ _ => String.toList_inj.mp).mp same

theorem text_injective {first second : FilePath} (sameRoot : first.absolute = second.absolute)
    (firstPlain : first.IsPlain) (secondPlain : second.IsPlain) (same : first.text = second.text) :
    first = second := by
  have pieces : Text.splitAt '/' first.text.toList = Text.splitAt '/' second.text.toList := by rw [same]
  rw [splitAt_text firstPlain, splitAt_text secondPlain, sameRoot] at pieces
  have parts : first.parts = second.parts := by
    split at pieces
    · refine parts_injective ?_ ?_ (List.cons.inj pieces).2
      · exact fun part member empty => (firstPlain part member).nonempty (String.toList_inj.mp empty)
      · exact fun part member empty => (secondPlain part member).nonempty (String.toList_inj.mp empty)
    · refine parts_injective ?_ ?_ pieces
      · exact fun part member dot => (firstPlain part member).moves (String.toList_inj.mp dot)
      · exact fun part member dot => (secondPlain part member).moves (String.toList_inj.mp dot)
  obtain ⟨absolute, firstParts⟩ := first
  obtain ⟨otherAbsolute, secondParts⟩ := second
  cases sameRoot
  cases parts
  rfl

end FilePath

def Target.isWritable : Target → Bool
  | .file _ | .nothing => true
  | .folder | .unreachable _ => false

namespace Directory

theorem hasFile_of_read {directory : Directory} {file contents : String}
    (held : directory.read (.ofText file) = .ok contents) : directory.hasFile file = true := by
  unfold read at held
  unfold hasFile
  cases target : directory.target (.ofText file) with
  | file contents => rfl
  | folder => rw [target] at held; cases held
  | nothing => rw [target] at held; cases held
  | unreachable error => rw [target] at held; cases held

def holding (directory : Directory) (path : FilePath) (contents : String) : Directory :=
  { directory with files := directory.files.put path.text contents }

theorem targetAt_holding_self (directory : Directory) (path : FilePath) (contents : String) :
    (directory.holding path contents).targetAt path = .file contents := by
  rw [targetAt, holding, Entries.find?_put_self]

theorem any_put (kind : String → Bool) {files : Entries String} (key contents : String)
    (found : (files.any fun entry => kind entry.1) = true) :
    ((files.put key contents).any fun entry => kind entry.1) = true := by
  have keys : (files.map Prod.fst).any kind = true := by
    rw [List.any_map]
    exact found
  rw [List.any_eq_true] at keys
  obtain ⟨name, member, holds⟩ := keys
  have still : name ∈ (files.put key contents).map Prod.fst := by
    rw [Entries.keys_put]
    split
    · exact member
    · exact List.mem_append_left _ member
  obtain ⟨entry, inside, rfl⟩ := List.mem_map.mp still
  exact List.any_eq_true.mpr ⟨entry, inside, holds⟩

theorem targetAt_holding_folder {directory : Directory} {path folder : FilePath}
    (isFolder : directory.targetAt folder = .folder) (apart : folder.text ≠ path.text)
    (contents : String) : (directory.holding path contents).targetAt folder = .folder := by
  rw [targetAt] at isFolder ⊢
  rw [holding, Entries.find?_put_other apart]
  split at isFolder
  · cases isFolder
  · split at isFolder
    · next here =>
        rw [if_pos]
        rw [hasFolder, Bool.or_eq_true] at here ⊢
        rcases here with known | holds
        · exact .inl known
        · exact .inr (any_put (Text.startsWith · (folder.text ++ "/")) path.text contents holds)
    · cases isFolder

theorem follow_last (directory : Directory) (folder : FilePath) (part : String) :
    directory.follow folder [part] =
      if nameLimit < part.utf8ByteSize then .unreachable .nameTooLong
      else directory.targetAt (folder.enter part) := rfl

theorem follow_next (directory : Directory) (folder : FilePath) (part next : String)
    (rest : List String) :
    directory.follow folder (part :: next :: rest) =
      if nameLimit < part.utf8ByteSize then .unreachable .nameTooLong
      else
        match directory.targetAt (folder.enter part) with
        | .folder => directory.follow (folder.enter part) (next :: rest)
        | .file _ => .unreachable .notFolder
        | _ => .unreachable .notFound := by
  simp only [follow]
  cases directory.targetAt (folder.enter part) <;> rfl

theorem follow_through {directory : Directory} {folder : FilePath} {part : String}
    (short : ¬nameLimit < part.utf8ByteSize)
    (isFolder : directory.targetAt (folder.enter part) = .folder) (next : String) (rest : List String) :
    directory.follow folder (part :: next :: rest) =
      directory.follow (folder.enter part) (next :: rest) := by
  rw [follow_next, if_neg short, isFolder]

theorem folder_of_follow {directory : Directory} {folder : FilePath} {part next : String}
    {rest : List String}
    (writable : (directory.follow folder (part :: next :: rest)).isWritable = true) :
    ¬nameLimit < part.utf8ByteSize ∧ directory.targetAt (folder.enter part) = .folder := by
  rw [follow_next] at writable
  split at writable
  · cases writable
  · next short =>
      split at writable
      · next isFolder => exact ⟨short, isFolder⟩
      · cases writable
      · cases writable

/-- A path that leads to a file or to nothing leads there from its last folder. -/
theorem targetAt_of_follow {directory : Directory} {parts : List String} {folder : FilePath}
    (writable : (directory.follow folder parts).isWritable = true) :
    directory.targetAt (parts.foldl FilePath.enter folder) = directory.follow folder parts := by
  induction parts generalizing folder with
  | nil => cases writable
  | cons part rest ih =>
      cases rest with
      | nil =>
          rw [follow_last] at writable ⊢
          split at writable
          · cases writable
          · next short => rw [if_neg short, List.foldl_cons, List.foldl_nil]
      | cons next rest =>
          obtain ⟨short, isFolder⟩ := folder_of_follow writable
          rw [follow_through short isFolder] at writable ⊢
          exact ih writable

theorem follow_holding {directory : Directory} {parts : List String} {folder last : FilePath}
    (plain : folder.IsPlain) (all : ∀ part ∈ parts, FilePath.IsPart part)
    (ends : parts.foldl FilePath.enter folder = last)
    (writable : (directory.follow folder parts).isWritable = true) (contents : String) :
    (directory.holding last contents).follow folder parts = .file contents := by
  have atLast := targetAt_of_follow writable
  have lastPlain : last.IsPlain := ends ▸ plain.foldl_enter all
  rw [ends] at atLast
  induction parts generalizing folder with
  | nil => cases writable
  | cons part rest ih =>
      rw [List.forall_mem_cons] at all
      cases rest with
      | nil =>
          rw [follow_last] at writable ⊢
          split at writable
          · cases writable
          · next short =>
              rw [if_neg short]
              rw [List.foldl_cons, List.foldl_nil] at ends
              rw [ends]
              exact targetAt_holding_self directory last contents
      | cons next rest =>
          obtain ⟨short, isFolder⟩ := folder_of_follow writable
          rw [follow_through short isFolder] at writable atLast
          -- A folder on the way has another name than the file at the end, where no folder is.
          have apart : (folder.enter part).text ≠ last.text := by
            intro same
            have root : (folder.enter part).absolute = last.absolute := by
              rw [← ends, FilePath.foldl_enter_absolute, FilePath.enter_absolute]
            have isLast := FilePath.text_injective root (plain.enter all.1) lastPlain same
            rw [← isLast, isFolder] at atLast
            rw [← atLast] at writable
            cases writable
          rw [follow_through short (targetAt_holding_folder isFolder apart contents)]
          exact ih (plain.enter all.1) all.2 ends writable atLast

section Written

variable {directory : Directory} {path : FilePath}

theorem write_eq_ok (writable : (directory.target path).isWritable = true) (contents : String) :
    directory.write path contents = .ok (directory.holding path.resolve contents) := by
  rw [write]
  cases found : directory.target path with
  | file before => rfl
  | nothing => rfl
  | folder => simp [found, Target.isWritable] at writable
  | unreachable error => simp [found, Target.isWritable] at writable

theorem write_eq_error (notWritable : (directory.target path).isWritable = false) :
    ∃ error, ∀ contents, directory.write path contents = .error error := by
  simp only [write]
  cases found : directory.target path with
  | file before => simp [found, Target.isWritable] at notWritable
  | nothing => simp [found, Target.isWritable] at notWritable
  | folder => exact ⟨_, fun _ => rfl⟩
  | unreachable error => exact ⟨_, fun _ => rfl⟩

theorem target_holding (plain : path.IsPlain) (writable : (directory.target path).isWritable = true)
    (contents : String) : (directory.holding path.resolve contents).target path = .file contents := by
  rw [target] at writable ⊢
  split at writable
  · cases writable
  · next short =>
      rw [if_neg short]
      exact follow_holding path.start_isPlain plain rfl writable contents

end Written

end Directory

end LoadScript.CommandLine
