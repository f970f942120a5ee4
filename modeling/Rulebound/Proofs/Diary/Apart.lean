import Rulebound.Proofs.Launch

/-!
# One diary for each run

Runs that began in different seconds keep different diaries, and so do runs below one folder whose
agents have different names in lower case, without slashes. Of the diary of such a run nothing is
read but what this run wrote, in whatever order the runs wrote. Runs with one diary are read as one.
-/

namespace Rulebound

variable {σ γ τ δ : Type}

namespace Diary

variable {files : Files} {file : Path} {place : Place}

/-! ## What is read -/

section Reading

variable [Json.Nesting]

/-- Of bytes, nothing is read but a header and records from some entries. -/
structure ReadsAs (bytes : List UInt8) (entries : List Entry) : Prop where
  header : readHeader bytes =
    .ok ((entries.find? Entry.isHeader).map fun entry => Json.reread entry.toJson)
  records : readRecords bytes = ⟨recordsOf entries, none⟩

theorem readsAs_written (entries : List Entry) :
    ReadsAs (bytesOf (written entries)) (written entries) :=
  ⟨readHeader_bytesOf isWritable_of_mem_written, readRecords_bytesOf isWritable_of_mem_written⟩

/-- In files, a diary is read as entries of a list, in their order, some of which may be lost. -/
def HasOnly (files : Files) (file : Path) (entries : List Entry) : Prop :=
  ∀ bytes, files.read file = .ok bytes → ∃ kept : List Entry, kept.Sublist entries ∧
    ReadsAs bytes kept

theorem hasOnly_changed (hnew : files.bytesAt file.place = []) (changes : List Change) :
    HasOnly (changed files changes) file (entriesAt file.place changes) := by
  intro bytes hread
  obtain ⟨kept, hkept, hbytes⟩ := exists_bytesAt_changed files changes file.place
  rw [Files.bytesAt_of_read hread, hnew, List.nil_append] at hbytes
  have hwritable : ∀ entry ∈ kept, entry.IsWritable := fun entry hentry =>
    isWritable_of_mem_written entry (hkept.subset hentry)
  refine ⟨kept, hkept.trans List.filter_sublist, ?_⟩
  rw [hbytes]
  exact ⟨readHeader_bytesOf hwritable, readRecords_bytesOf hwritable⟩

end Reading

/-! ## Changes of two runs -/

/-- The changes of one of two runs, among those of both. -/
def changesBy (isFirst : Bool) (steps : List (Bool × Change)) : List Change :=
  steps.filterMap fun step => if step.1 = isFirst then some step.2 else none

theorem entriesAt_map_snd {isFirst : Bool} {steps : List (Bool × Change)}
    (h : entriesAt place (changesBy (!isFirst) steps) = []) :
    entriesAt place (steps.map Prod.snd) = entriesAt place (changesBy isFirst steps) := by
  induction steps with
  | nil => rfl
  | cons step steps ih =>
      by_cases hown : step.1 = isFirst
      · have hother : step.1 ≠ !isFirst := by simp [hown]
        simp only [changesBy, List.filterMap_cons, if_neg hother] at h
        simp only [changesBy, List.filterMap_cons, if_pos hown, List.map_cons, entriesAt_cons]
        rw [ih h, changesBy]
      · have hother : step.1 = !isFirst := by
          cases hstep : step.1 <;> cases isFirst <;> simp_all
        simp only [changesBy, List.filterMap_cons, if_pos hother, entriesAt_cons,
          List.append_eq_nil_iff, Option.toList_eq_nil_iff] at h
        simp only [changesBy, List.filterMap_cons, if_neg hown, List.map_cons, entriesAt_cons,
          h.1, Option.toList_none, List.nil_append]
        rw [ih h.2, changesBy]

end Diary

namespace Launch

/-! ## Runs with diaries of their own -/

/-- Runs of two launches for agents of some names have diaries of their own: they begin in different
seconds, or the names have no slashes and differ in lower case, below one folder. -/
def Apart (first : Launch σ γ) (last : Launch τ δ) (name other : String) : Prop :=
  (first.clock 0).wholeSecond ≠ (last.clock 0).wholeSecond ∨
    first.settings.logFolder = last.settings.logFolder ∧ '/' ∉ name.toList ∧
      '/' ∉ other.toList ∧ Text.lower name ≠ Text.lower other

section Diaries

variable {first : Launch σ γ} {last : Launch τ δ} {files : Files} {loaded other : Profile.Loaded}

theorem Apart.place_ne (h : first.Apart last loaded.profile.name other.profile.name) :
    (first.diary loaded.profile).place ≠ (last.diary other.profile).place := by
  rcases h with hsecond | ⟨hbase, hname, hother, hlower⟩
  · exact Diary.place_ne_of_second hsecond _ _ _ _
  · unfold diary folder
    rw [hbase]
    exact Diary.place_ne_of_name hname hother hlower _ _

/-- A run adds its entries to its own diary and to no other. -/
theorem entriesAt_changes (place : Place) (launch : Launch σ γ) (profile : Profile)
    (entries : List Diary.Entry) :
    Diary.entriesAt place (launch.changes profile entries) =
      if (launch.diary profile).place = place then entries else [] := by
  have hfolder : (Diary.Change.make (launch.folder profile)).entryAt? place = none := rfl
  rw [changes, Diary.entriesAt_cons, hfolder]
  exact Diary.entriesAt_add place (launch.diary profile) entries

variable [Json.Nesting]

/-- In files, the diary of a run is read as what this run kept: its header and then its records. -/
def ReadsOwn (launch : Launch σ γ) (profile : Profile) (launched : Launched σ γ) (files : Files) :
    Prop :=
  ∃ rest bytes, launched.entries = launch.header profile :: rest ∧
    files.read (launch.diary profile) = .ok bytes ∧
    Diary.readHeader bytes = .ok (some (Json.reread (launch.header profile).toJson)) ∧
    Diary.readRecords bytes = ⟨Diary.recordsOf (Diary.written rest), none⟩

theorem readsOwn_of_isOpen {launched : Launched σ γ} {rest : List Diary.Entry} {profile : Profile}
    {place : Place} (hrest : launched.entries = first.header profile :: rest)
    (hopen : files.IsOpen (first.diary profile) place
      (Diary.bytesOf (Diary.written launched.entries))) :
    first.ReadsOwn profile launched files := by
  have hheader : (first.header profile).IsWritable := Session.isWritable_header _
  have hreads := Diary.readsAs_written launched.entries
  rw [hrest, Diary.written_cons hheader] at hreads
  refine ⟨rest, _, hrest, hopen.read, ?_, ?_⟩
  · rw [hrest, Diary.written_cons hheader, hreads.header]
    rfl
  · rw [hrest, Diary.written_cons hheader, hreads.records]
    rfl

/-- What a run kept in a new diary is read as long as other changes add nothing there. -/
theorem readsOwn_of_grows
    (hload : Profile.load first.source first.settings.agentName = .ok loaded)
    (hnew : files.bytesAt (first.diary loaded.profile).place = [])
    {conditions : Cycle.Conditions} {limit : Nat} {world : σ} {backend : γ}
    (hkept : (first.run conditions limit world backend files).entries ≠ []) {later : Files}
    (hgrows : (first.run conditions limit world backend files).files.Grows later)
    (hsame : later.fileAt? (first.diary loaded.profile).place =
      (first.run conditions limit world backend files).files.fileAt?
        (first.diary loaded.profile).place) :
    first.ReadsOwn loaded.profile (first.run conditions limit world backend files) later := by
  obtain ⟨made, hstarts⟩ := exists_starts_of_ne_nil hload hkept
  obtain ⟨rest, hrest⟩ := hstarts.exists_entries conditions limit world backend
  have hopen := hstarts.isOpen conditions limit world backend
  rw [hnew, List.nil_append] at hopen
  refine readsOwn_of_isOpen hrest (hopen.of_grows hgrows ?_)
  rw [hsame]
  exact Files.fileAt?_eq_some.2 hopen.node

/-- A run that is apart from another finds a new diary after it. -/
theorem bytesAt_run (hload : Profile.load first.source first.settings.agentName = .ok loaded)
    {place : Place} (hapart : (first.diary loaded.profile).place ≠ place)
    (conditions : Cycle.Conditions) (limit : Nat) (world : σ) (backend : γ) (files : Files) :
    (first.run conditions limit world backend files).files.bytesAt place = files.bytesAt place := by
  rw [files_run hload]
  refine Files.bytesAt_congr (Diary.fileAt?_changed_of_apart ?_ files)
  rw [entriesAt_changes, if_neg hapart]

/-- In whatever order two runs change files, the diary of one of them has only its own entries if
the other adds nothing there. -/
theorem hasOnly_steps {profile : Profile} {entries : List Diary.Entry} {isFirst : Bool}
    {steps : List (Bool × Diary.Change)} (hnew : files.bytesAt (first.diary profile).place = [])
    (hown : Diary.changesBy isFirst steps = first.changes profile entries)
    (hother : Diary.entriesAt (first.diary profile).place (Diary.changesBy (!isFirst) steps) = []) :
    Diary.HasOnly (Diary.changed files (steps.map Prod.snd)) (first.diary profile) entries := by
  have honly := Diary.hasOnly_changed hnew (steps.map Prod.snd)
  rw [Diary.entriesAt_map_snd hother, hown, entriesAt_changes, if_pos rfl] at honly
  exact honly

/-- Two runs whose diaries lie in different places each add to their own, in whatever order. -/
theorem hasOnly_both {profile another : Profile} {entries others : List Diary.Entry}
    {steps : List (Bool × Diary.Change)}
    (hplaces : (first.diary profile).place ≠ (last.diary another).place)
    (hnew : files.bytesAt (first.diary profile).place = [])
    (hnext : files.bytesAt (last.diary another).place = [])
    (hown : Diary.changesBy true steps = first.changes profile entries)
    (hother : Diary.changesBy false steps = last.changes another others) :
    Diary.HasOnly (Diary.changed files (steps.map Prod.snd)) (first.diary profile) entries ∧
      Diary.HasOnly (Diary.changed files (steps.map Prod.snd)) (last.diary another) others := by
  constructor
  · refine hasOnly_steps hnew hown ?_
    rw [Bool.not_true, hother, entriesAt_changes, if_neg hplaces.symm]
  · refine hasOnly_steps hnext hother ?_
    rw [Bool.not_false, hown, entriesAt_changes, if_neg hplaces]

/-- Two runs that are apart, and whose diaries were not there before, have a diary each: if one runs
after the other, each diary is then read as what its own run kept, and a run that comes to a folder
has kept its header at least. In whatever order the entries of two such runs are added, nothing is
read of the diary of a run but entries of this run, in their order. -/
theorem diaries_apart (hfirst : Profile.load first.source first.settings.agentName = .ok loaded)
    (hlast : Profile.load last.source last.settings.agentName = .ok other)
    (hapart : first.Apart last loaded.profile.name other.profile.name)
    (hnew : files.bytesAt (first.diary loaded.profile).place = [])
    (hnext : files.bytesAt (last.diary other.profile).place = [])
    (conditions after : Cycle.Conditions) (limit more : Nat) (world : σ) (land : τ) (backend : γ)
    (server : δ) :
    let one := first.run conditions limit world backend files
    let two := last.run after more land server one.files
    (one.entries ≠ [] → first.ReadsOwn loaded.profile one two.files) ∧
      (two.entries ≠ [] → last.ReadsOwn other.profile two two.files) ∧
      (∀ folder, one.result = .ok folder →
        folder = first.folder loaded.profile ∧ one.entries ≠ []) ∧
      (∀ folder, two.result = .ok folder →
        folder = last.folder other.profile ∧ two.entries ≠ []) ∧
      ∀ (entries others : List Diary.Entry) (steps : List (Bool × Diary.Change)),
        Diary.changesBy true steps = first.changes loaded.profile entries →
        Diary.changesBy false steps = last.changes other.profile others →
        Diary.HasOnly (Diary.changed files (steps.map Prod.snd)) (first.diary loaded.profile)
            entries ∧
          Diary.HasOnly (Diary.changed files (steps.map Prod.snd)) (last.diary other.profile)
            others := by
  have hplaces := hapart.place_ne
  intro one two
  refine ⟨?_, ?_, ?_, ?_, ?_⟩
  · intro hkept
    have hfiles : two.files = Diary.changed one.files (last.changes other.profile two.entries) :=
      files_run hlast
    rw [hfiles]
    refine readsOwn_of_grows hfirst hnew hkept (Diary.grows_changed _ _) ?_
    refine Diary.fileAt?_changed_of_apart ?_ _
    rw [entriesAt_changes, if_neg hplaces.symm]
  · intro hkept
    have hthere : one.files.bytesAt (last.diary other.profile).place = [] :=
      (bytesAt_run hfirst hplaces conditions limit world backend files).trans hnext
    exact readsOwn_of_grows hlast hthere hkept (.refl _) rfl
  · exact fun folder hfolder => entries_ne_nil_of_result hfirst hfolder
  · exact fun folder hfolder => entries_ne_nil_of_result hlast hfolder
  · exact fun _ _ _ hown hother => hasOnly_both hplaces hnew hnext hown hother

end Diaries

section NextSecond

attribute [local instance] Json.Nesting.usual

def nextSecond : Instant := ⟨2024, 3, 1, 0, 0, 0, 1⟩

theorem folder_next : (brief "ada" nextSecond).folder { name := "ada" } =
    ⟨.here, ["logs"] ++ ["ada_2024-03-01T00-00-00Z"]⟩ := by
  decide

theorem diary_ada : ((brief "Ada" Diary.sampleTime).diary { name := "Ada" }).place =
    (logs.child "ada_2024-02-29T23-59-59Z").child "diary.jsonl" := by
  rw [diary, folder_ada]
  decide

theorem exists_starts_next {files : Files} {bytes : List UInt8}
    (hfiles : files = (((Files.put {} logs .folder).put
      (logs.child "ada_2024-02-29T23-59-59Z") .folder).put
        ((logs.child "ada_2024-02-29T23-59-59Z").child "diary.jsonl") (.file bytes))) :
    ∃ made, (brief "ada" nextSecond).Starts files ⟨{ name := "ada" }, []⟩ made := by
  have hstart : Files.startOf
      ⟨.here, ["logs"] ++ ["ada_2024-03-01T00-00-00Z"] ++ [Diary.fileName]⟩ = .ok .top := by
    cbv
  have hlocate : files.locate ⟨.here, ["logs"]⟩ = .ok logs := by
    rw [hfiles]
    cbv
  have hbase : files.node? logs = some .folder := by
    rw [hfiles]
    rfl
  have hnone : files.node? (logs.child "ada_2024-03-01T00-00-00Z") = none := by
    rw [hfiles]
    rfl
  have hnew :
      files.node? ((logs.child "ada_2024-03-01T00-00-00Z").child Diary.fileName) = none := by
    rw [hfiles]
    rfl
  have hgood := (Files.startOf_eq_ok.1 hstart).1
  exact ⟨_, starts_of_new (load_brief "ada" nextSecond) folder_next hgood hlocate hbase
    (by decide) (by decide) hnone hnew⟩

/-- Agents whose names differ in case only, a second apart. -/
theorem next_second_apart :
    let one := (brief "Ada" Diary.sampleTime).run {} 1 {} idle {}
    let two := (brief "ada" nextSecond).run {} 1 {} idle one.files
    one.result = .ok ⟨.here, ["logs", "ada_2024-02-29T23-59-59Z"]⟩ ∧
      two.result = .ok ⟨.here, ["logs", "ada_2024-03-01T00-00-00Z"]⟩ ∧
      (brief "Ada" Diary.sampleTime).ReadsOwn { name := "Ada" } one two.files ∧
      (brief "ada" nextSecond).ReadsOwn { name := "ada" } two two.files := by
  obtain ⟨bytes, hleft⟩ := starts_ada.exists_put (by rw [diary_ada]; decide) {} 1 {} idle
  rw [diary_ada] at hleft
  obtain ⟨made, hstarts⟩ := exists_starts_next hleft
  have hlast := (hstarts.result_of_ending (brief_finished "ada" nextSecond)).trans
    (congrArg Except.ok folder_next)
  obtain ⟨hown, hother, hkept, hnext, -⟩ := diaries_apart (load_brief "Ada" Diary.sampleTime)
    (load_brief "ada" nextSecond) (.inl (by decide)) (Files.bytesAt_empty _)
    (Files.bytesAt_empty _) {} {} 1 1 {} {} idle idle
  exact ⟨result_ada, hlast, hown (hkept _ result_ada).2, hother (hnext _ hlast).2⟩

end NextSecond

/-! ## Runs with one diary -/

section Shared

variable [Json.Nesting] {first : Launch σ γ} {last : Launch τ δ} {files : Files}
  {loaded other : Profile.Loaded}

theorem starts_of_isOpen (hload : Profile.load first.source first.settings.agentName = .ok loaded)
    {place : Place} {bytes : List UInt8}
    (hopen : files.IsOpen (first.diary loaded.profile) place bytes) :
    first.Starts files loaded files := by
  have hfolders := hopen.folders
  rw [diary, Diary.parent_fileIn] at hfolders
  refine ⟨hload, hfolders, ?_⟩
  obtain ⟨opened, hcreate, -⟩ := hopen.create
  unfold Diary.isWritable
  rw [hcreate]

/-- Of runs that keep the same diary, one after the other, the header of the first is read and the
records of both. -/
theorem runs_mixed {made : Files} (hstarts : first.Starts files loaded made)
    (hlast : Profile.load last.source last.settings.agentName = .ok other)
    (hsame : last.diary other.profile = first.diary loaded.profile)
    (hnew : files.bytesAt (first.diary loaded.profile).place = [])
    (conditions after : Cycle.Conditions) (limit more : Nat) (world : σ) (land : τ) (backend : γ)
    (server : δ) :
    let one := first.run conditions limit world backend files
    let two := last.run after more land server one.files
    last.Starts one.files other one.files ∧
      ∃ bytes, two.files.read (last.diary other.profile) = .ok bytes ∧
        Diary.readHeader bytes =
          .ok (some (Json.reread (first.header loaded.profile).toJson)) ∧
        Diary.readRecords bytes = ⟨Diary.recordsOf (Diary.written one.entries) ++
          Diary.recordsOf (Diary.written two.entries), none⟩ := by
  obtain ⟨rest, hrest⟩ := hstarts.exists_entries conditions limit world backend
  have hheader : (first.header loaded.profile).IsWritable := Session.isWritable_header _
  have hopen := hstarts.isOpen conditions limit world backend
  rw [hnew, List.nil_append, ← hsame] at hopen
  have hagain := starts_of_isOpen hlast hopen
  have hboth := hagain.isOpen after more land server
  rw [Files.bytesAt_of_read hopen.read, ← Diary.bytesOf_append, ← Diary.written_append] at hboth
  have hreads := Diary.readsAs_written ((first.run conditions limit world backend files).entries ++
    (last.run after more land server
      (first.run conditions limit world backend files).files).entries)
  intro one two
  refine ⟨hagain, _, hboth.read, ?_, ?_⟩
  · rw [hreads.header, hrest, List.cons_append, Diary.written_cons hheader]
    rfl
  · rw [hreads.records, Diary.written_append, Diary.recordsOf_append]

end Shared

section Namesakes

attribute [local instance] Json.Nesting.usual

/-- Agents whose names differ in case only, in one second: the diary of the second run has the
header of the first, and the records of both. -/
theorem namesakes_mixed :
    let one := (brief "Ada" Diary.sampleTime).run {} 1 {} idle {}
    let two := (brief "ada" Diary.sampleTime).run {} 1 {} idle one.files
    let folder : Path := ⟨.here, ["logs", "ada_2024-02-29T23-59-59Z"]⟩
    one.result = .ok folder ∧ two.result = .ok folder ∧
      ∃ bytes, two.files.read (Diary.fileIn folder) = .ok bytes ∧
        Diary.readHeader bytes = .ok (some (Json.reread
          ((brief "Ada" Diary.sampleTime).header { name := "Ada" }).toJson)) ∧
        Diary.readHeader bytes ≠ .ok (some (Json.reread
          ((brief "ada" Diary.sampleTime).header { name := "ada" }).toJson)) ∧
        (Diary.readRecords bytes).records.length = 2 ∧
        (Diary.recordsOf (Diary.written two.entries)).length = 1 := by
  have hfolder : (brief "ada" Diary.sampleTime).folder { name := "ada" } =
      ⟨.here, ["logs", "ada_2024-02-29T23-59-59Z"]⟩ := by
    decide
  have hsame : (brief "ada" Diary.sampleTime).diary { name := "ada" } =
      (brief "Ada" Diary.sampleTime).diary { name := "Ada" } := by
    rw [diary, diary, hfolder, folder_ada]
  obtain ⟨hstarts, bytes, hread, hheader, hrecords⟩ := runs_mixed starts_ada
    (load_brief "ada" Diary.sampleTime) hsame (Files.bytesAt_empty _) {} {} 1 1 {} {} idle idle
  have hone : (Diary.recordsOf (Diary.written
      ((brief "Ada" Diary.sampleTime).run {} 1 {} idle {}).entries)).length = 1 := by
    rw [starts_ada.entries_eq]
    decide +kernel
  have htwo : (Diary.recordsOf (Diary.written ((brief "ada" Diary.sampleTime).run {} 1 {} idle
      ((brief "Ada" Diary.sampleTime).run {} 1 {} idle {}).files).entries)).length = 1 := by
    rw [hstarts.entries_eq]
    decide +kernel
  have hdiffer :
      Json.print (Json.reread ((brief "Ada" Diary.sampleTime).header { name := "Ada" }).toJson) ≠
        Json.print
          (Json.reread ((brief "ada" Diary.sampleTime).header { name := "ada" }).toJson) := by
    decide
  have hresult := (hstarts.result_of_ending (brief_finished "ada" Diary.sampleTime)).trans
    (congrArg Except.ok hfolder)
  rw [diary, hfolder] at hread
  refine ⟨result_ada, hresult, bytes, hread, hheader, ?_, ?_, htwo⟩
  · intro heq
    rw [hheader] at heq
    exact hdiffer (congrArg Json.print (Option.some.inj (Except.ok.inj heq)))
  · rw [hrecords, List.length_append, hone, htwo]

end Namesakes

end Launch

end Rulebound
