import Rulebound.Proofs.Files.Frame
import Rulebound.Proofs.Truncation

/-!
# What is added to diaries

Runs change files by making folders and by adding entries to diaries. What is added to a diary at
one place is found there and nowhere else, in whatever order the changes come, and the header that
is read of a diary is the first one that was written.
-/

namespace Rulebound.Diary

variable {files after : Files} {file : Path} {place : Place} {bytes : List UInt8}

/-! ## What a run changes -/

/-- What a run does to files: it makes a folder, or adds an entry to a diary. -/
inductive Change where
  | make (folder : Path)
  | add (file : Path) (entry : Entry)

/-- The entry that a change adds to the diary at a place. -/
def Change.entryAt? (place : Place) : Change → Option Entry
  | make _ => none
  | add file entry => if file.place = place then some entry else none

def entriesAt (place : Place) (changes : List Change) : List Entry :=
  changes.filterMap (Change.entryAt? place)

theorem entriesAt_cons (place : Place) (change : Change) (changes : List Change) :
    entriesAt place (change :: changes) =
      (change.entryAt? place).toList ++ entriesAt place changes := by
  cases hentry : change.entryAt? place with
  | none => rw [entriesAt, List.filterMap_cons_none hentry]; rfl
  | some entry => rw [entriesAt, List.filterMap_cons_some hentry]; rfl

theorem entriesAt_add (place : Place) (file : Path) (entries : List Entry) :
    entriesAt place (entries.map (.add file)) = if file.place = place then entries else [] := by
  induction entries with
  | nil => simp [entriesAt]
  | cons entry entries ih =>
      have hentry : (Change.add file entry).entryAt? place =
          if file.place = place then some entry else none := rfl
      rw [List.map_cons, entriesAt_cons, hentry, ih]
      by_cases hplace : file.place = place
      · simp only [if_pos hplace]
        rfl
      · simp only [if_neg hplace]
        rfl

/-! ## One entry -/

theorem bytesOf_append (first later : List Entry) :
    bytesOf (first ++ later) = bytesOf first ++ bytesOf later := by
  rw [bytesOf, textOf, List.flatMap_append, Text.encode_append]
  rfl

theorem bytesOf_cons (entry : Entry) (entries : List Entry) :
    bytesOf (entry :: entries) = Text.encode entry.lineChars ++ bytesOf entries := by
  rw [bytesOf, textOf, List.flatMap_cons, Text.encode_append]
  rfl

theorem bytesOf_singleton (entry : Entry) : bytesOf [entry] = Text.encode entry.lineChars := by
  rw [bytesOf_cons]
  exact List.append_nil _

variable [Json.Nesting]

def written (entries : List Entry) : List Entry :=
  entries.filter fun entry => entry.IsWritable

theorem isWritable_of_mem_written {entries : List Entry} :
    ∀ entry ∈ written entries, entry.IsWritable := by
  intro entry hentry
  simpa using (List.mem_filter.1 hentry).2

theorem written_append (first later : List Entry) :
    written (first ++ later) = written first ++ written later :=
  List.filter_append first later

theorem written_cons {entry : Entry} (h : entry.IsWritable) (entries : List Entry) :
    written (entry :: entries) = entry :: written entries :=
  List.filter_cons_of_pos (decide_eq_true h)

theorem append_eq_ok {entry : Entry} (h : append files file entry = .ok after) :
    entry.IsWritable ∧ files.Grows after ∧ ∀ other, after.fileAt? other =
      if file.place = other then some (files.bytesAt other ++ bytesOf [entry])
      else files.fileAt? other := by
  have hwritable := isWritable_of_append h
  have hwrite : Json.write entry.toJson = .ok (Json.print entry.toJson) := by
    unfold Json.write
    rw [hwritable]
  unfold append at h
  obtain ⟨opened, hcreate, h⟩ := bind_eq_ok.1 h
  obtain ⟨text, htext, hadded⟩ := bind_eq_ok.1 h
  obtain rfl := Except.ok.inj (hwrite.symm.trans htext)
  refine ⟨hwritable, (Files.grows_create hcreate).trans (Files.grows_appendTo hadded), ?_⟩
  intro other
  rw [Files.fileAt?_appendTo hadded, Files.bytesAt, Files.fileAt?_create hcreate,
    bytesOf_singleton]
  by_cases hother : file.place = other
  · simp only [if_pos hother, Option.getD_some, List.append_nil]
    rfl
  · simp only [if_neg hother]

theorem exists_append_put {entry : Entry} (hfolder : files.makeFolders file.parent = .ok files)
    (h : append files file entry = .ok after) :
    ∃ bytes, after = files.put file.place (.file bytes) := by
  unfold append Files.create at h
  rw [hfolder] at h
  obtain ⟨opened, hopened, h⟩ := bind_eq_ok.1 h
  obtain ⟨text, -, hadded⟩ := bind_eq_ok.1 h
  obtain ⟨-, -, rfl⟩ := Files.appendTo_eq_ok hopened
  obtain ⟨-, -, rfl⟩ := Files.appendTo_eq_ok hadded
  exact ⟨_, Files.put_put _ _ _ _⟩

/-! ## One change -/

def Change.apply (files : Files) : Change → Files
  | make folder => (openFolder files folder).toOption.getD files
  | add file entry => (append files file entry).toOption.getD files

theorem apply_make (files : Files) (folder : Path) :
    Change.apply files (.make folder) = (openFolder files folder).toOption.getD files :=
  rfl

theorem apply_add (files : Files) (file : Path) (entry : Entry) :
    Change.apply files (.add file entry) = (append files file entry).toOption.getD files :=
  rfl

theorem apply_cases (files : Files) (change : Change) :
    change.apply files = files ∨
      (∃ folder, openFolder files folder = .ok (change.apply files)) ∨
      ∃ file entry, change = .add file entry ∧
        append files file entry = .ok (change.apply files) := by
  cases change with
  | make folder =>
      cases hmade : openFolder files folder with
      | error fault => exact .inl (by rw [apply_make, hmade]; rfl)
      | ok made => exact .inr (.inl ⟨folder, by rw [apply_make, hmade]; rfl⟩)
  | add file entry =>
      cases hadded : append files file entry with
      | error fault => exact .inl (by rw [apply_add, hadded]; rfl)
      | ok after => exact .inr (.inr ⟨file, entry, rfl, by rw [apply_add, hadded]; rfl⟩)

theorem grows_apply (files : Files) (change : Change) : files.Grows (change.apply files) := by
  rcases apply_cases files change with hsame | ⟨folder, hmade⟩ | ⟨file, entry, -, hadded⟩
  · rw [hsame]
    exact .refl files
  · exact (Files.makeFolders_spec hmade).1
  · exact (append_eq_ok hadded).2.1

/-- A change adds its entry to the file at a place, or leaves this file as it is. -/
theorem fileAt?_apply (files : Files) (change : Change) (place : Place) :
    (change.apply files).fileAt? place = files.fileAt? place ∨
      ∃ entry, change.entryAt? place = some entry ∧ entry.IsWritable ∧
        (change.apply files).fileAt? place = some (files.bytesAt place ++ bytesOf [entry]) := by
  rcases apply_cases files change with hsame | ⟨folder, hmade⟩ | ⟨file, entry, rfl, hadded⟩
  · left
    rw [hsame]
  · left
    exact Files.fileAt?_makeFolders hmade place
  · obtain ⟨hwritable, -, hfiles⟩ := append_eq_ok hadded
    rw [hfiles]
    by_cases hplace : file.place = place
    · right
      rw [if_pos hplace]
      exact ⟨entry, if_pos hplace, hwritable, rfl⟩
    · left
      rw [if_neg hplace]

theorem isOpen_add (hopen : files.IsOpen file place bytes) (entry : Entry) :
    (Change.apply files (.add file entry)).IsOpen file place
      (bytes ++ bytesOf (written [entry])) := by
  obtain ⟨opened, hcreate, hopened⟩ := hopen.create
  rw [apply_add]
  by_cases hwritable : entry.IsWritable
  · obtain ⟨after, hafter, hgrown⟩ := append_of_isWritable hwritable hcreate hopened
    rw [hafter, written_cons hwritable, bytesOf_cons]
    exact (List.append_nil (Text.encode entry.lineChars)).symm ▸ hgrown
  · have hnone : bytes ++ bytesOf (written [entry]) = bytes := by
      simp [written, hwritable, bytesOf, textOf, Text.encode]
    cases happend : append files file entry with
    | ok after => exact absurd (isWritable_of_append happend) hwritable
    | error fault =>
        rw [hnone]
        exact hopen

/-! ## Many changes -/

def changed (files : Files) (changes : List Change) : Files :=
  changes.foldl Change.apply files

theorem grows_changed (files : Files) (changes : List Change) :
    files.Grows (changed files changes) := by
  induction changes generalizing files with
  | nil => exact .refl files
  | cons change changes ih => exact (grows_apply files change).trans (ih _)

/-- In whatever order changes come, what is found at a place was added there. -/
theorem exists_bytesAt_changed (files : Files) (changes : List Change) (place : Place) :
    ∃ kept, kept.Sublist (written (entriesAt place changes)) ∧
      (changed files changes).bytesAt place = files.bytesAt place ++ bytesOf kept := by
  induction changes generalizing files with
  | nil => exact ⟨[], List.nil_sublist _, (List.append_nil _).symm⟩
  | cons change changes ih =>
      obtain ⟨kept, hkept, hlater⟩ := ih (change.apply files)
      have hnext : changed files (change :: changes) = changed (change.apply files) changes := rfl
      rw [hnext, hlater]
      rcases fileAt?_apply files change place with hsame | ⟨entry, hentry, hwritable, hadded⟩
      · rw [Files.bytesAt_congr hsame]
        refine ⟨kept, hkept.trans ?_, rfl⟩
        rw [entriesAt_cons, written_append]
        exact List.sublist_append_right _ _
      · refine ⟨entry :: kept, ?_, ?_⟩
        · rw [entriesAt_cons, hentry, Option.toList_some, List.singleton_append,
            written_cons hwritable]
          exact hkept.cons_cons entry
        · rw [Files.bytesAt, hadded, Option.getD_some, List.append_assoc, ← bytesOf_append]
          rfl

/-- Changes that add nothing at a place leave what is there as it is. -/
theorem fileAt?_changed_of_apart {changes : List Change} (h : entriesAt place changes = [])
    (files : Files) : (changed files changes).fileAt? place = files.fileAt? place := by
  induction changes generalizing files with
  | nil => rfl
  | cons change changes ih =>
      obtain ⟨hnone, hrest⟩ := List.forall_mem_cons.1 (List.filterMap_eq_nil_iff.1 h)
      have hnext : changed files (change :: changes) = changed (change.apply files) changes := rfl
      rw [hnext, ih (List.filterMap_eq_nil_iff.2 hrest)]
      rcases fileAt?_apply files change place with hsame | ⟨entry, hentry, -⟩
      · exact hsame
      · rw [hnone] at hentry
        contradiction

theorem exists_changed_put (hfolder : files.makeFolders file.parent = .ok files)
    (entries : List Entry) :
    changed files (entries.map (.add file)) = files ∨
      ∃ bytes, changed files (entries.map (.add file)) = files.put file.place (.file bytes) := by
  induction entries generalizing files with
  | nil => exact .inl rfl
  | cons entry entries ih =>
      have hnext : changed files ((entry :: entries).map (.add file)) =
          changed (Change.apply files (.add file entry)) (entries.map (.add file)) := rfl
      rw [hnext, apply_add]
      cases hadded : append files file entry with
      | error fault => exact ih hfolder
      | ok after =>
          obtain ⟨bytes, hput⟩ := exists_append_put hfolder hadded
          have hmade := (Files.makeFolders_spec hfolder).2 after (append_eq_ok hadded).2.1
          right
          rcases ih hmade with hsame | ⟨more, hmore⟩
          · exact ⟨bytes, hsame.trans hput⟩
          · exact ⟨more, by rw [← Files.put_put files _ bytes more, ← hput]; exact hmore⟩

theorem isOpen_changed_add (hopen : files.IsOpen file place bytes) (entries : List Entry) :
    (changed files (entries.map (.add file))).IsOpen file place
      (bytes ++ bytesOf (written entries)) := by
  induction entries generalizing files bytes with
  | nil => exact (List.append_nil bytes).symm ▸ hopen
  | cons entry entries ih =>
      have hbytes : bytes ++ bytesOf (written (entry :: entries)) =
          bytes ++ bytesOf (written [entry]) ++ bytesOf (written entries) := by
        rw [List.append_assoc, ← bytesOf_append, ← written_append]
        rfl
      rw [hbytes]
      exact ih (isOpen_add hopen entry)

/-! ## Reading -/

/-- The header that is read of a diary is the first one that was written. -/
theorem readHeader_bytesOf {entries : List Entry}
    (h : ∀ entry ∈ entries, entry.IsWritable) :
    readHeader (bytesOf entries) =
      .ok ((entries.find? Entry.isHeader).map fun entry => Json.reread entry.toJson) := by
  unfold readHeader
  rw [bytesOf, linesOf_textOf]
  exact headerIn_lineChars h

end Rulebound.Diary
