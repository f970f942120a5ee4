import Rulebound.Diary.Folder
import Rulebound.Proofs.Files.Place
import Rulebound.Proofs.Instant
import Rulebound.Proofs.Text.Lower
import Rulebound.Proofs.Text.Pieces

/-!
# Where the folders of runs are

The last name on the way to the folder of a run ends in the stamp of the moment at which it began,
whatever the agent is called. So the diaries of runs that began in different seconds have different
places. If there is no slash in the name of the agent, the folder lies directly within its base.
-/

namespace Rulebound

/-! ## After the last mark -/

namespace Text

/-- What follows the last mark in a text is settled by the text. -/
theorem after_last_eq {mark : Char} {front back first last : List Char} (hfirst : mark ∉ first)
    (hlast : mark ∉ last) (h : front ++ mark :: first = back ++ mark :: last) : first = last := by
  rcases List.append_eq_append_iff.1 h with ⟨mid, -, hmid⟩ | ⟨mid, -, hmid⟩
  · cases mid with
    | nil => exact (List.cons.inj hmid).2
    | cons c mid =>
        obtain ⟨-, hrest⟩ := List.cons.inj hmid
        exact absurd (by simp [hrest]) hfirst
  · cases mid with
    | nil => exact (List.cons.inj hmid).2.symm
    | cons c mid =>
        obtain ⟨-, hrest⟩ := List.cons.inj hmid
        exact absurd (by simp [hrest]) hlast

end Text

/-! ## Paths -/

namespace Path

theorem isPart_of_mem {piece : List Char} {c : Char} (hmem : c ∈ piece) (hc : c ≠ '.') :
    isPart piece = true := by
  have hne : piece ≠ [] := List.ne_nil_of_mem hmem
  have hdot : piece ≠ ['.'] := by
    intro heq
    rw [heq, List.mem_singleton] at hmem
    exact hc hmem
  simp [isPart, hne, hdot]

theorem ofText_of_name {name : String} (hslash : '/' ∉ name.toList)
    (hpart : isPart name.toList = true) : ofText name = ⟨.here, [name]⟩ := by
  have hstart : (name.toList.takeWhile (· == '/')).length = 0 := by
    cases hname : name.toList with
    | nil => rfl
    | cons c rest =>
        have hc : c ≠ '/' := fun heq => hslash (by simp [hname, heq])
        simp [hc]
  have hparts : ((Text.splitChars '/' name.toList).filter isPart).map String.ofList = [name] := by
    rw [Text.splitChars_of_not_mem hslash]
    simp [hpart]
  rw [ofText, hstart, hparts]
  rfl

theorem within_of_name (folder : Path) {name : String} (hslash : '/' ∉ name.toList)
    (hpart : isPart name.toList = true) :
    folder.within name = ⟨folder.start, folder.parts ++ [name]⟩ := by
  have happend : folder.within name = folder.append (ofText name) := rfl
  rw [happend, ofText_of_name hslash hpart]
  rfl

theorem place_concat (start : PathStart) (parts : List String) {name : String}
    (h : name ≠ "..") :
    (⟨start, parts ++ [name]⟩ : Path).place = (⟨start, parts⟩ : Path).place.child name := by
  simp [place, Place.step, h]

end Path

/-! ## Folders of runs -/

namespace Diary

variable {base : Path} {agent stamp : String}

def folderName (agent stamp : String) : String :=
  Text.lower agent ++ "_" ++ stamp

theorem toList_folderName (agent stamp : String) :
    (folderName agent stamp).toList = (Text.lower agent).toList ++ '_' :: stamp.toList := by
  have hmark : "_".toList = ['_'] := by decide
  simp [folderName, hmark]

theorem fileIn_eq (folder : Path) : fileIn folder = ⟨folder.start, folder.parts ++ [fileName]⟩ :=
  folder.within_of_name (by decide) (by decide)

theorem parent_fileIn (folder : Path) : (fileIn folder).parent = folder := by
  rw [fileIn_eq]
  simp [Path.parent]

/-- The name of the folder of a run, and where it lies, if the name of the agent has no slash. -/
theorem runFolder_of_name (base : Path) (hagent : '/' ∉ agent.toList)
    (hstamp : '/' ∉ stamp.toList) :
    runFolder base agent stamp = ⟨base.start, base.parts ++ [folderName agent stamp]⟩ := by
  have hslash : '/' ∉ (folderName agent stamp).toList := by
    rw [toList_folderName]
    simp only [List.mem_append, List.mem_cons, not_or]
    exact ⟨fun hmem => hagent (Text.slash_of_mem_lower hmem), by decide, hstamp⟩
  have hpart : Path.isPart (folderName agent stamp).toList = true :=
    Path.isPart_of_mem (c := '_') (by simp [toList_folderName]) (by decide)
  exact base.within_of_name hslash hpart

/-- Whatever an agent is called, the last name on the way to the folder of its run ends in the stamp
of the run. -/
theorem exists_runFolder (base : Path) (agent : String) (hstamp : '/' ∉ stamp.toList) :
    ∃ start parts front, runFolder base agent stamp =
      ⟨start, parts ++ [String.ofList (front ++ '_' :: stamp.toList)]⟩ := by
  obtain ⟨pieces, last, hpieces⟩ := Text.exists_splitChars '/' (Text.lower agent).toList
  have hmore : '/' ∉ '_' :: stamp.toList := by simp [hstamp]
  have hpart : Path.isPart (last ++ '_' :: stamp.toList) = true :=
    Path.isPart_of_mem (c := '_') (by simp) (by decide)
  have hparts : (Path.ofText (folderName agent stamp)).parts =
      (pieces.filter Path.isPart).map String.ofList ++
        [String.ofList (last ++ '_' :: stamp.toList)] := by
    rw [Path.ofText, toList_folderName, hpieces _ hmore]
    simp [hpart]
  have hfolder : runFolder base agent stamp =
      base.append (Path.ofText (folderName agent stamp)) := rfl
  rw [hfolder, Path.append]
  split
  · rw [hparts, ← List.append_assoc]
    exact ⟨_, _, last, rfl⟩
  · exact ⟨(Path.ofText (folderName agent stamp)).start,
      (pieces.filter Path.isPart).map String.ofList, last, by rw [← hparts]⟩

theorem place_fileIn (start : PathStart) (parts : List String) {name : String} (h : name ≠ "..") :
    (fileIn ⟨start, parts ++ [name]⟩).place =
      ((⟨start, parts⟩ : Path).place.child name).child fileName := by
  rw [fileIn_eq, Path.place_concat _ _ (by decide), Path.place_concat _ _ h]

theorem child_inj {first last : Place} {name other : String}
    (h : first.child name = last.child other) : first = last ∧ name = other := by
  have hparent := congrArg Place.parent h
  have hname := congrArg Place.name? h
  rw [Place.parent_child, Place.parent_child] at hparent
  rw [Place.name?_child, Place.name?_child] at hname
  exact ⟨hparent, Option.some.inj hname⟩

theorem ofList_stamped_ne (front stamp : List Char) :
    String.ofList (front ++ '_' :: stamp) ≠ ".." := by
  intro h
  have hchars := congrArg String.toList h
  rw [String.toList_ofList] at hchars
  have hmem : '_' ∈ "..".toList := hchars ▸ by simp
  exact absurd hmem (by decide)

theorem folderName_ne_dots (agent stamp : String) : folderName agent stamp ≠ ".." := by
  have hne := ofList_stamped_ne (Text.lower agent).toList stamp.toList
  rwa [← toList_folderName, String.ofList_toList] at hne

/-- Runs that began in different seconds keep their diaries in different places, whatever the agents
are called. -/
theorem place_ne_of_second {first last : Instant} (h : first.wholeSecond ≠ last.wholeSecond)
    (base other : Path) (agent name : String) :
    (fileIn (runFolder base agent first.stamp)).place ≠
      (fileIn (runFolder other name last.stamp)).place := by
  obtain ⟨hslash, hmark⟩ := first.not_mem_stamp
  obtain ⟨hotherSlash, hotherMark⟩ := last.not_mem_stamp
  obtain ⟨start, parts, front, hfolder⟩ := exists_runFolder base agent hslash
  obtain ⟨otherStart, otherParts, back, hother⟩ := exists_runFolder other name hotherSlash
  rw [hfolder, hother, place_fileIn _ _ (ofList_stamped_ne _ _),
    place_fileIn _ _ (ofList_stamped_ne _ _)]
  intro heq
  have hname := (child_inj (child_inj heq).1).2
  have hchars := congrArg String.toList hname
  rw [String.toList_ofList, String.toList_ofList] at hchars
  have hstamp := Text.after_last_eq hmark hotherMark hchars
  exact h (Instant.stamp_eq_iff.1 (String.toList_inj.1 hstamp))

/-- So do runs whose agents have different names in lower case, below one base, if there is no slash
in the names. -/
theorem place_ne_of_name {base : Path} {agent name : String} (hagent : '/' ∉ agent.toList)
    (hname : '/' ∉ name.toList) (h : Text.lower agent ≠ Text.lower name) (first last : Instant) :
    (fileIn (runFolder base agent first.stamp)).place ≠
      (fileIn (runFolder base name last.stamp)).place := by
  by_cases hsecond : first.wholeSecond = last.wholeSecond
  · have hstamp := Instant.stamp_eq_iff.2 hsecond
    rw [← hstamp, runFolder_of_name base hagent first.not_mem_stamp.1,
      runFolder_of_name base hname first.not_mem_stamp.1,
      place_fileIn _ _ (folderName_ne_dots _ _), place_fileIn _ _ (folderName_ne_dots _ _)]
    intro heq
    have hnames := congrArg String.toList (child_inj (child_inj heq).1).2
    rw [toList_folderName, toList_folderName, List.append_cancel_right_eq] at hnames
    exact h (String.toList_inj.1 hnames)
  · exact place_ne_of_second hsecond base base agent name

end Diary

end Rulebound
