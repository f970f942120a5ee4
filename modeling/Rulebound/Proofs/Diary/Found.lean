import Rulebound.Command.Execution
import Rulebound.Proofs.Launch

/-!
# Finding a run again

The latest run below a folder is looked for among the folders that lie directly within it. So a run
is found again if its folder lies there, which it does unless there is a slash in the name of its
agent.
-/

namespace Rulebound

variable {σ γ : Type}

namespace Diary

/-! ## The latest folder -/

theorem later_some (files : Files) (best folder : Path) :
    ∃ next, later files (some best) folder = some next ∧ (next = best ∨ next = folder) ∧
      files.changeTime best ≤ files.changeTime next ∧
      files.changeTime folder ≤ files.changeTime next := by
  unfold later
  dsimp only
  split
  · exact ⟨folder, rfl, .inr rfl, by omega, by omega⟩
  · exact ⟨best, rfl, .inl rfl, by omega, by omega⟩

theorem foldl_later (files : Files) (best : Path) (folders : List Path) :
    ∃ latest ∈ best :: folders, folders.foldl (later files) (some best) = some latest ∧
      ∀ other ∈ best :: folders, files.changeTime other ≤ files.changeTime latest := by
  induction folders generalizing best with
  | nil => exact ⟨best, List.mem_singleton_self best, rfl, by simp⟩
  | cons folder folders ih =>
      obtain ⟨next, hnext, hone, hbest, hfolder⟩ := later_some files best folder
      obtain ⟨latest, hmem, hlatest, hmost⟩ := ih next
      have hleast := hmost next List.mem_cons_self
      refine ⟨latest, ?_, ?_, ?_⟩
      · rcases List.mem_cons.1 hmem with rfl | hlater
        · rcases hone with rfl | rfl
          · exact List.mem_cons_self
          · exact List.mem_cons_of_mem _ List.mem_cons_self
        · exact List.mem_cons_of_mem _ (List.mem_cons_of_mem _ hlater)
      · rw [List.foldl_cons, hnext]
        exact hlatest
      · intro other hother
        rcases List.mem_cons.1 hother with rfl | hrest
        · omega
        · rcases List.mem_cons.1 hrest with rfl | hlater
          · omega
          · exact hmost other (List.mem_cons_of_mem _ hlater)

/-- Where any run left a diary, the latest of them is found. -/
theorem exists_latestFolder {files : Files} {base folder : Path} {place : Place}
    (hfind : files.find base = .ok .folder) (hlocate : files.locate base = .ok place)
    (h : folder ∈ runFolders files base place) :
    ∃ latest ∈ runFolders files base place, latestFolder files base = .ok (some latest) ∧
      files.changeTime folder ≤ files.changeTime latest := by
  have hlatest : latestFolder files base =
      .ok ((runFolders files base place).foldl (later files) none) := by
    unfold latestFolder
    rw [hfind, hlocate]
    rfl
  rw [hlatest]
  cases hfolders : runFolders files base place with
  | nil =>
      rw [hfolders] at h
      contradiction
  | cons best folders =>
      rw [hfolders] at h
      obtain ⟨latest, hmem, hfold, hmost⟩ := foldl_later files best folders
      exact ⟨latest, hmem, congrArg Except.ok hfold, hmost folder h⟩

/-! ## Folders with a diary -/

theorem mem_runFolders {files : Files} {base : Path} {name : String} {bytes : List UInt8}
    {place : Place} (hname : base.within name = ⟨base.start, base.parts ++ [name]⟩)
    (hdots : name ≠ "..") (hopen : files.IsOpen (fileIn (base.within name)) place bytes) :
    ∃ within, files.find base = .ok .folder ∧ files.locate base = .ok within ∧
      base.within name ∈ runFolders files base within := by
  have hdiary : (files.find (fileIn (base.within name))).toBool = true := by
    rw [Files.find_eq_ok hopen.located hopen.node]
    rfl
  have hlocated := hopen.located
  rw [fileIn_eq, hname] at hlocated
  obtain ⟨here, hhere, hfolder, -⟩ := Files.locate_concat hlocated
  obtain ⟨within, hbase, hwithin, hstep⟩ := Files.locate_concat hhere
  have hchild : here = within.child name := by rw [hstep, Place.step, if_neg hdots]
  have hlisted : name ∈ files.namesIn within := by
    rw [Files.mem_namesIn, ← hchild, hfolder]
    rfl
  have hisFolder : files.isFolder (base.within name) = true := by
    unfold Files.isFolder
    rw [hname, Files.find_eq_ok hhere hfolder]
  refine ⟨within, Files.find_eq_ok hbase hwithin, hbase, ?_⟩
  refine List.mem_filter.2 ⟨List.mem_map_of_mem hlisted, ?_⟩
  rw [hisFolder, hdiary]
  rfl

/-- In files, a folder is one of those directly within a base of which the latest is looked at when
no other is asked for. -/
def IsFound (files : Files) (base folder : Path) : Prop :=
  ∃ place, files.find base = .ok .folder ∧ files.locate base = .ok place ∧
    folder ∈ runFolders files base place ∧
    ∃ latest ∈ runFolders files base place, files.changeTime folder ≤ files.changeTime latest ∧
      ∀ (order : Command.Order) (settings : Settings), order.runFolder = none →
        settings.logFolder = base → order.folderToView settings files = .ok (some latest)

theorem isFound_of_isOpen {files : Files} {base : Path} {name : String} {bytes : List UInt8}
    {place : Place} (hname : base.within name = ⟨base.start, base.parts ++ [name]⟩)
    (hdots : name ≠ "..") (hopen : files.IsOpen (fileIn (base.within name)) place bytes) :
    IsFound files base (base.within name) := by
  obtain ⟨within, hfind, hlocate, hmem⟩ := mem_runFolders hname hdots hopen
  obtain ⟨latest, hlatest, hfound, hmost⟩ := exists_latestFolder hfind hlocate hmem
  refine ⟨within, hfind, hlocate, hmem, latest, hlatest, hmost, ?_⟩
  intro order settings hnone hsame
  unfold Command.Order.folderToView
  rw [hnone, hsame]
  exact hfound

end Diary

/-! ## Runs that are found -/

namespace Launch

/-- A run that comes to a folder comes to one directly within the folder for runs, unless there is a
slash in the name of its agent. This folder is then among those of which the latest is looked at
when no other is asked for. -/
theorem run_found [Json.Nesting] {launch : Launch σ γ} {loaded : Profile.Loaded}
    {conditions : Cycle.Conditions} {limit : Nat} {world : σ} {backend : γ} {files : Files}
    {folder : Path} (hload : Profile.load launch.source launch.settings.agentName = .ok loaded)
    (hname : '/' ∉ loaded.profile.name.toList)
    (hresult : (launch.run conditions limit world backend files).result = .ok folder) :
    folder = ⟨launch.settings.logFolder.start, launch.settings.logFolder.parts ++
        [Diary.folderName loaded.profile.name (launch.clock 0).stamp]⟩ ∧
      Diary.IsFound (launch.run conditions limit world backend files).files
        launch.settings.logFolder folder := by
  obtain ⟨other, made, hstarts, hown⟩ := exists_starts_of_result hresult
  have hsame := Except.ok.inj (hload.symm.trans hstarts.loads)
  rw [← hsame] at hown
  rw [← hsame] at hstarts
  have hfolder := Diary.runFolder_of_name launch.settings.logFolder hname
    (launch.clock 0).not_mem_stamp.1
  rw [hown]
  refine ⟨hfolder, ?_⟩
  exact Diary.isFound_of_isOpen hfolder
    (Diary.folderName_ne_dots loaded.profile.name (launch.clock 0).stamp)
    (hstarts.isOpen conditions limit world backend)

section Closed

attribute [local instance] Json.Nesting.usual

theorem ada_found :
    let launched := (brief "Ada" Diary.sampleTime).run {} 1 {} idle {}
    launched.result = .ok ⟨.here, ["logs", "ada_2024-02-29T23-59-59Z"]⟩ ∧
      Diary.IsFound launched.files ⟨.here, ["logs"]⟩
        ⟨.here, ["logs", "ada_2024-02-29T23-59-59Z"]⟩ := by
  have hfound := (run_found (load_brief "Ada" Diary.sampleTime) (by decide) result_ada).2
  exact ⟨result_ada, hfound⟩

def slashedFolders : Files :=
  ((Files.put {} logs .folder).put (logs.child "a") .folder).put
    ((logs.child "a").child "b_2024-02-29T23-59-59Z") .folder

theorem folder_slashed : (brief "a/b" Diary.sampleTime).folder { name := "a/b" } =
    ⟨.here, ["logs", "a", "b_2024-02-29T23-59-59Z"]⟩ := by
  decide

theorem starts_slashed :
    (brief "a/b" Diary.sampleTime).Starts {} ⟨{ name := "a/b" }, []⟩ slashedFolders := by
  constructor
  case loads => rfl
  case makes =>
    rw [folder_slashed]
    cbv
  case opens =>
    rw [diary, folder_slashed]
    cbv

/-- Nothing that lies directly within the folder for runs has a diary then. -/
theorem latestFolder_slashed (bytes : List UInt8) :
    Diary.latestFolder (slashedFolders.put
      (((logs.child "a").child "b_2024-02-29T23-59-59Z").child "diary.jsonl") (.file bytes))
      ⟨.here, ["logs"]⟩ = .ok none := by
  generalize hleft : slashedFolders.put
    (((logs.child "a").child "b_2024-02-29T23-59-59Z").child "diary.jsonl") (.file bytes) = left
  have hwithin : (⟨.here, ["logs"]⟩ : Path).within "a" = ⟨.here, ["logs", "a"]⟩ := by decide
  have hinside : Diary.fileIn ⟨.here, ["logs", "a"]⟩ = ⟨.here, ["logs", "a", "diary.jsonl"]⟩ := by
    decide
  have hnames : left.namesIn logs = ["a"] := by
    rw [← hleft]
    rfl
  have hfind : (left.find ⟨.here, ["logs", "a", "diary.jsonl"]⟩).toBool = false := by
    have habsent : left.node? (Path.place ⟨.here, ["logs", "a", "diary.jsonl"]⟩) = none := by
      rw [← hleft]
      rfl
    cases hfound : left.find ⟨.here, ["logs", "a", "diary.jsonl"]⟩ with
    | error fault => rfl
    | ok node => exact nomatch habsent.symm.trans (Files.node?_of_find hfound)
  have hlogs : left.find ⟨.here, ["logs"]⟩ = .ok .folder := by
    rw [← hleft]
    cbv
  have hbase : left.locate ⟨.here, ["logs"]⟩ = .ok logs := by
    rw [← hleft]
    cbv
  have hnone : Diary.runFolders left ⟨.here, ["logs"]⟩ logs = [] := by
    simp [Diary.runFolders, hnames, hwithin, hinside, hfind]
  unfold Diary.latestFolder
  rw [hlogs, hbase]
  show Except.ok ((Diary.runFolders _ _ _).foldl _ none) = _
  rw [hnone]
  rfl

/-- With a slash in the name of its agent, a run is not found again: no run is. -/
theorem slashed_not_found :
    let launched := (brief "a/b" Diary.sampleTime).run {} 1 {} idle {}
    let folder : Path := ⟨.here, ["logs", "a", "b_2024-02-29T23-59-59Z"]⟩
    launched.result = .ok folder ∧ folder.parent ≠ ⟨.here, ["logs"]⟩ ∧
      ¬ Diary.IsFound launched.files ⟨.here, ["logs"]⟩ folder ∧
      (Command.Order.look { replays := true } {} launched.files).ending =
        .refused Command.Order.noRunFolder := by
  intro launched folder
  have hdiary : (brief "a/b" Diary.sampleTime).diary { name := "a/b" } =
      ⟨.here, ["logs", "a", "b_2024-02-29T23-59-59Z", "diary.jsonl"]⟩ := by
    rw [diary, folder_slashed]
    decide
  have hresult : launched.result = .ok folder := by
    rw [starts_slashed.result_of_ending (brief_finished "a/b" Diary.sampleTime)]
    exact congrArg Except.ok folder_slashed
  obtain ⟨bytes, hleft⟩ := starts_slashed.exists_put (by rw [hdiary]; decide) {} 1 {} idle
  have hview : Command.Order.folderToView { replays := true } {} launched.files = .ok none := by
    have hplace : Path.place ⟨.here, ["logs", "a", "b_2024-02-29T23-59-59Z", "diary.jsonl"]⟩ =
        ((logs.child "a").child "b_2024-02-29T23-59-59Z").child "diary.jsonl" := by
      decide
    rw [hdiary, hplace] at hleft
    rw [hleft]
    exact latestFolder_slashed bytes
  refine ⟨hresult, by decide, ?_, ?_⟩
  · intro hfound
    obtain ⟨_, _, _, _, latest, _, _, hlatest⟩ := hfound
    have hsome := hlatest { replays := true } {} rfl (by decide)
    exact absurd (Except.ok.inj (hview.symm.trans hsome)) (Option.some_ne_none latest).symm
  · unfold Command.Order.look
    rw [hview]

end Closed

end Launch

end Rulebound
