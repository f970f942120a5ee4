import Rulebound.Proofs.Diary.Change
import Rulebound.Proofs.Diary.Folder
import Rulebound.Proofs.Lifecycle
import Rulebound.Proofs.Session

/-!
# What a launch does to files

Whatever happens in a run, nothing that happened is taken back, so the header of its diary stays the
first of its entries. A run that comes to a folder has made that folder and opened a diary in it,
and added to this diary what can be written of its entries.
-/

namespace Rulebound

open Rulebound.Cycle

variable {σ γ : Type}

/-! ## Nothing is taken back -/

namespace Session

variable [Json.Nesting] {session : Session σ γ} {conditions : Conditions} {state : State σ γ}
  {trace : List Event}

theorem prefix_afterEntry (session : Session σ γ) (state : State σ γ) (entry : Diary.Entry)
    {next : State σ γ → List Event → Finish σ γ}
    (hnext : ∀ state trace, trace <+: (next state trace).trace) :
    trace <+: (session.afterEntry state trace entry next).trace := by
  unfold afterEntry
  dsimp only
  split
  · exact (List.prefix_append _ _).trans (hnext _ _)
  · exact List.prefix_append _ _

omit [Json.Nesting] in
theorem prefix_endWith (ending : Ending) (state : State σ γ) (trace : List Event) :
    trace <+: (endWith ending state trace).trace :=
  List.prefix_refl trace

theorem prefix_failedStart (session : Session σ γ) (fault : Fault) :
    trace <+: (session.failedStart fault state trace).trace := by
  unfold failedStart
  split
  · exact session.prefix_afterEntry state _ (prefix_endWith _)
  · exact prefix_endWith _ state trace

theorem prefix_connected (session : Session σ γ) (conditions : Conditions) (limit : Nat) :
    trace <+: (session.connected conditions limit state trace).trace := by
  have hcourse : trace <+:
      (session.agent.course (session.underSettings conditions) limit state trace).trace := by
    unfold Agent.course
    split
    · exact List.prefix_refl trace
    · obtain ⟨after, htrace, -⟩ := Agent.outward_courseFrom session.agent
        (session.underSettings conditions) limit state trace
      exact ⟨after, htrace.symm⟩
  unfold connected closing
  split
  · exact hcourse
  · refine hcourse.trans (List.IsPrefix.trans ?_ (session.prefix_afterEntry _ _ (prefix_endWith _)))
    rw [List.append_assoc]
    exact List.prefix_append _ _

theorem prefix_readied (session : Session σ γ) (conditions : Conditions) (limit : Nat) :
    trace <+: (session.readied conditions limit state trace).trace := by
  unfold readied
  split
  · exact (List.prefix_append _ _).trans (session.prefix_afterEntry state _ (prefix_endWith _))
  · dsimp only
    split
    · exact (List.prefix_append _ _).trans (session.prefix_failedStart _)
    · exact (List.prefix_append _ _).trans (session.prefix_connected conditions limit)

theorem prefix_begun (session : Session σ γ) (conditions : Conditions) (limit : Nat)
    (state : State σ γ) (trace : List Event) :
    trace <+: (session.begun conditions limit state trace).trace := by
  have hwaiting : ∀ trace : List Event,
      trace <+: (session.waiting conditions limit state trace).trace := by
    intro trace
    unfold waiting
    dsimp only
    split
    · refine List.IsPrefix.trans ?_ (session.prefix_failedStart _)
      rw [List.append_assoc, List.append_assoc]
      exact List.prefix_append _ _
    · refine List.IsPrefix.trans ?_ (session.prefix_readied conditions limit)
      rw [List.append_assoc, List.append_assoc]
      exact List.prefix_append _ _
  have hreleased : ∀ finish : Finish σ γ, finish.trace <+: (session.released finish).trace := by
    intro finish
    unfold released
    split
    · exact List.prefix_refl _
    · split
      · exact List.prefix_append _ _
      · exact List.prefix_refl _
  unfold begun
  dsimp only
  split
  · exact List.prefix_append _ _
  · exact (List.prefix_append _ _).trans ((hwaiting _).trans (hreleased _))

/-- A run whose header is kept has it as its first entry. -/
theorem exists_entries_run (hkept : session.agent.hitch? 0 = none) (conditions : Conditions)
    (limit : Nat) (world : σ) (backend : γ) :
    ∃ rest, Event.entries (session.run conditions limit world backend).trace =
      session.header :: rest := by
  have hbegun := session.prefix_begun conditions limit
    { session.start world backend with writes := 1 } [.write session.header true]
  obtain ⟨rest, hrest⟩ := hbegun.filterMap Event.kept?
  refine ⟨rest, ?_⟩
  have hnothing : session.agent.obstruction? 0 session.header = none :=
    Agent.obstruction?_eq_none_iff.2 ⟨hkept, session.isWritable_header⟩
  unfold run afterEntry
  rw [show (session.start world backend).writes = 0 from rfl, hnothing]
  exact hrest.symm

omit [Json.Nesting] in
theorem folder_of_result {finish : Finish σ γ} {folder : Path}
    (h : session.result finish = .ok folder) : session.folder = folder := by
  unfold result at h
  split at h
  · contradiction
  · exact Except.ok.inj h

/-- A run whose diary cannot be opened comes to nothing else. -/
theorem run_of_opening (hlost : session.agent.hitch? 0 = some .opening) (conditions : Conditions)
    (limit : Nat) (world : σ) (backend : γ) :
    Event.entries (session.run conditions limit world backend).trace = [] ∧
      session.result (session.run conditions limit world backend) = .error Agent.lostEntry := by
  have hobstruction : session.agent.obstruction? 0 session.header = some Agent.lostEntry := by
    simp [Agent.obstruction?, hlost]
  unfold run afterEntry
  rw [show (session.start world backend).writes = 0 from rfl, hobstruction]
  exact ⟨rfl, rfl⟩

end Session

/-! ## Runs that start -/

def Launched.entries (launched : Launched σ γ) : List Diary.Entry :=
  match launched.finish? with
  | some (_, finish) => Event.entries finish.trace
  | none => []

namespace Launch

variable {launch : Launch σ γ} {files made : Files} {loaded : Profile.Loaded}
  {conditions : Conditions} {limit : Nat} {world : σ} {backend : γ}

def folder (launch : Launch σ γ) (profile : Profile) : Path :=
  Diary.runFolder launch.settings.logFolder profile.name (launch.clock 0).stamp

def diary (launch : Launch σ γ) (profile : Profile) : Path :=
  Diary.fileIn (launch.folder profile)

/-- What a run under a profile does to files, given the entries that it keeps. -/
def changes (launch : Launch σ γ) (profile : Profile) (entries : List Diary.Entry) :
    List Diary.Change :=
  .make (launch.folder profile) :: entries.map (.add (launch.diary profile))

def opened (launch : Launch σ γ) (made : Files) (loaded : Profile.Loaded) : Session σ γ :=
  launch.session made loaded.profile (launch.folder loaded.profile)

/-- The session of a run that started: nothing is lost of what it writes. -/
def started (launch : Launch σ γ) (profile : Profile) : Session σ γ :=
  let session := launch.session {} profile (launch.folder profile)
  { session with agent := { session.agent with hitch? := fun _ => none } }

def header (launch : Launch σ γ) (profile : Profile) : Diary.Entry :=
  (launch.started profile).header

theorem hitch?_opened {launch : Launch σ γ} {made : Files} {loaded : Profile.Loaded} {opens : Bool}
    (h : Diary.isWritable made (launch.diary loaded.profile) = opens) (writes : Nat) :
    (launch.opened made loaded).agent.hitch? writes = if opens then none else some .opening := by
  unfold diary at h
  simp only [opened, session, h]

section Nesting

variable [Json.Nesting]

/-- There is a profile to run under, and a folder can be made for the run in which a diary can be
kept. -/
structure Starts (launch : Launch σ γ) (files : Files) (loaded : Profile.Loaded)
    (made : Files) : Prop where
  loads : Profile.load launch.source launch.settings.agentName = .ok loaded
  makes : Diary.openFolder files (launch.folder loaded.profile) = .ok made
  opens : Diary.isWritable made (launch.diary loaded.profile) = true

theorem record_of_isWritable {file : Path} {entries : List Diary.Entry}
    (h : ∀ entry ∈ entries, entry.IsWritable) (hopens : Diary.isWritable files file = true) :
    record files file entries = (Diary.changed files (entries.map (.add file)), none) := by
  induction entries generalizing files with
  | nil => rfl
  | cons entry entries ih =>
      obtain ⟨hwritable, hrest⟩ := List.forall_mem_cons.1 h
      obtain ⟨opened, hcreate⟩ : ∃ opened, files.create file [] = .ok opened := by
        unfold Diary.isWritable at hopens
        cases hcreate : files.create file [] with
        | error fault => exact nomatch hcreate ▸ hopens
        | ok opened => exact ⟨opened, rfl⟩
      obtain ⟨after, hafter, hgrown⟩ :=
        Diary.append_of_isWritable hwritable hcreate (Files.IsOpen.of_create hcreate)
      have hagain : Diary.isWritable after file = true := by
        obtain ⟨next, hnext, -⟩ := hgrown.create
        unfold Diary.isWritable
        rw [hnext]
      unfold record
      simp only [hafter]
      rw [ih hrest hagain, List.map_cons, Diary.changed, Diary.changed, List.foldl_cons,
        Diary.apply_add, hafter]
      rfl

/-- What a run comes to, given how its session went: what it kept in its diary was written. -/
def ended (session : Session σ γ) (logs : List Log.Line) (made : Files)
    (finish : Session.Finish σ γ) : Launched σ γ :=
  ⟨session.result finish, logs,
    Diary.changed made ((Event.entries finish.trace).map (.add (Diary.fileIn session.folder))),
    some (Diary.fileIn session.folder, finish)⟩

theorem entries_ended (session : Session σ γ) (logs : List Log.Line) (made : Files)
    (finish : Session.Finish σ γ) :
    (ended session logs made finish).entries = Event.entries finish.trace :=
  rfl

theorem result_ended (session : Session σ γ) (logs : List Log.Line) (made : Files)
    (finish : Session.Finish σ γ) :
    (ended session logs made finish).result = session.result finish :=
  rfl

theorem finish?_ended (session : Session σ γ) (logs : List Log.Line) (made : Files)
    (finish : Session.Finish σ γ) :
    (ended session logs made finish).finish? = some (Diary.fileIn session.folder, finish) :=
  rfl

theorem run_of_unmade (hload : Profile.load launch.source launch.settings.agentName = .ok loaded)
    {fault : Fault} (h : Diary.openFolder files (launch.folder loaded.profile) = .error fault) :
    launch.run conditions limit world backend files = refused files loaded.logs fault := by
  unfold folder at h
  simp only [run, hload, h]

theorem run_of_made (hload : Profile.load launch.source launch.settings.agentName = .ok loaded)
    (h : Diary.openFolder files (launch.folder loaded.profile) = .ok made) :
    launch.run conditions limit world backend files =
      ended (launch.opened made loaded) loaded.logs made
        ((launch.opened made loaded).run conditions limit world backend) := by
  have hrecord : record made (launch.diary loaded.profile)
      (Event.entries ((launch.opened made loaded).run conditions limit world backend).trace) =
      (Diary.changed made ((Event.entries ((launch.opened made loaded).run conditions limit world
        backend).trace).map (.add (launch.diary loaded.profile))), none) := by
    cases hopens : Diary.isWritable made (launch.diary loaded.profile) with
    | true =>
        exact record_of_isWritable
          ((launch.opened made loaded).keepsWritable_run conditions limit world backend) hopens
    | false =>
        have hlost : (launch.opened made loaded).agent.hitch? 0 = some .opening :=
          hitch?_opened hopens 0
        rw [(Session.run_of_opening hlost conditions limit world backend).1]
        rfl
  unfold diary opened folder at hrecord
  unfold folder at h
  simp only [run, hload, h, hrecord, Option.elim_none]
  rfl

/-- A run changes files by making its folder and keeping its entries. -/
theorem files_run (hload : Profile.load launch.source launch.settings.agentName = .ok loaded) :
    (launch.run conditions limit world backend files).files =
      Diary.changed files (launch.changes loaded.profile
        (launch.run conditions limit world backend files).entries) := by
  rw [changes, Diary.changed, List.foldl_cons, Diary.apply_make]
  cases hmade : Diary.openFolder files (launch.folder loaded.profile) with
  | error fault =>
      rw [run_of_unmade hload hmade]
      rfl
  | ok made =>
      rw [run_of_made hload hmade]
      generalize (launch.opened made loaded).run conditions limit world backend = finish
      rfl

theorem starts_or_fails (launch : Launch σ γ) (conditions : Conditions) (limit : Nat) (world : σ)
    (backend : γ) (files : Files) :
    (∃ loaded made, launch.Starts files loaded made) ∨
      (launch.run conditions limit world backend files).entries = [] ∧
        ∃ fault, (launch.run conditions limit world backend files).result = .error fault := by
  cases hload : Profile.load launch.source launch.settings.agentName with
  | error fault =>
      right
      unfold run
      rw [hload]
      exact ⟨rfl, fault, rfl⟩
  | ok loaded =>
      cases hmade : Diary.openFolder files (launch.folder loaded.profile) with
      | error fault =>
          right
          rw [run_of_unmade hload hmade]
          exact ⟨rfl, fault, rfl⟩
      | ok made =>
          cases hopens : Diary.isWritable made (launch.diary loaded.profile) with
          | true => exact .inl ⟨loaded, made, hload, hmade, hopens⟩
          | false =>
              right
              have hlost : (launch.opened made loaded).agent.hitch? 0 = some .opening :=
                hitch?_opened hopens 0
              obtain ⟨hnone, hfault⟩ := Session.run_of_opening hlost conditions limit world backend
              rw [run_of_made hload hmade, entries_ended, result_ended]
              exact ⟨hnone, _, hfault⟩

/-- A run starts in a folder that is there, unless its own folder is there already, or its name or
the path of its diary is too long. -/
theorem starts_of_new (hload : Profile.load launch.source launch.settings.agentName = .ok loaded)
    {start : PathStart} {parts : List String} {name : String} {base : Place}
    (hfolder : launch.folder loaded.profile = ⟨start, parts ++ [name]⟩)
    (hgood : (⟨start, parts ++ [name] ++ [Diary.fileName]⟩ : Path).IsGood)
    (hlocate : files.locate ⟨start, parts⟩ = .ok base) (hbase : files.node? base = some .folder)
    (hshort : name.utf8ByteSize ≤ Files.longestName) (hdots : name ≠ "..")
    (hnone : files.node? (base.child name) = none)
    (hnew : files.node? ((base.child name).child Diary.fileName) = none) :
    launch.Starts files loaded (files.put (base.child name) .folder) := by
  have hmade : files.makeFolders ⟨start, parts ++ [name]⟩ =
      .ok (files.put (base.child name) .folder) :=
    Files.makeFolders_concat hgood.of_concat hlocate hbase hshort hdots hnone
  obtain ⟨hgrows, hagain⟩ := Files.makeFolders_spec hmade
  have hdeep : (base.child name).depth ≠ 0 := Nat.succ_ne_zero _
  have hhere := Files.locate_of_concat hgood.of_concat (Files.locate_grows hgrows hlocate)
    (hgrows.folder base hbase) hshort hdots
  have hdiary := Files.locate_of_concat hgood hhere
    (by rw [Files.node?_put hdeep, if_pos rfl]) (by decide) (by decide)
  have hparent : (⟨start, parts ++ [name] ++ [Diary.fileName]⟩ : Path).parent =
      ⟨start, parts ++ [name]⟩ := by
    simp [Path.parent]
  have habsent : (files.put (base.child name) .folder).node?
      ((base.child name).child Diary.fileName) = none := by
    have hne : base.child name ≠ (base.child name).child Diary.fileName := fun heq =>
      absurd (congrArg Place.depth heq) (Nat.succ_ne_self _).symm
    rw [Files.node?_put hdeep, if_neg hne, hnew]
  have hcreate := Files.create_of_none [] (hparent ▸ hagain _ (.refl _)) hdiary habsent
  refine ⟨hload, hfolder ▸ hmade, ?_⟩
  unfold Diary.isWritable
  rw [diary, hfolder, Diary.fileIn_eq, hcreate]

/-- How a run goes that started does not depend on the files. -/
theorem Starts.opened_eq (h : launch.Starts files loaded made) :
    launch.opened made loaded = launch.started loaded.profile := by
  have hopens := h.opens
  unfold diary at hopens
  simp only [opened, session, started, hopens, if_true]

theorem Starts.run (h : launch.Starts files loaded made) :
    launch.run conditions limit world backend files =
      ended (launch.started loaded.profile) loaded.logs made
        ((launch.started loaded.profile).run conditions limit world backend) := by
  rw [run_of_made h.loads h.makes, h.opened_eq]

theorem Starts.entries_eq (h : launch.Starts files loaded made) :
    (launch.run conditions limit world backend files).entries =
      Event.entries ((launch.started loaded.profile).run conditions limit world backend).trace := by
  rw [h.run, entries_ended]

theorem Starts.files_eq (h : launch.Starts files loaded made) :
    (launch.run conditions limit world backend files).files =
      Diary.changed made ((launch.run conditions limit world backend files).entries.map
        (.add (launch.diary loaded.profile))) := by
  rw [files_run h.loads, changes, Diary.changed, List.foldl_cons, Diary.apply_make, h.makes]
  rfl

theorem Starts.exists_entries (h : launch.Starts files loaded made) (conditions : Conditions)
    (limit : Nat) (world : σ) (backend : γ) :
    ∃ rest, (launch.run conditions limit world backend files).entries =
      launch.header loaded.profile :: rest := by
  rw [h.entries_eq]
  exact Session.exists_entries_run rfl conditions limit world backend

theorem exists_starts_of_ne_nil
    (hload : Profile.load launch.source launch.settings.agentName = .ok loaded)
    (h : (launch.run conditions limit world backend files).entries ≠ []) :
    ∃ made, launch.Starts files loaded made := by
  rcases launch.starts_or_fails conditions limit world backend files with
    ⟨other, made, hstarts⟩ | ⟨hnone, -⟩
  · obtain rfl := Except.ok.inj (hload.symm.trans hstarts.loads)
    exact ⟨made, hstarts⟩
  · exact absurd hnone h

/-- A run that comes to a folder has started, and the folder is its own. -/
theorem exists_starts_of_result {folder : Path}
    (h : (launch.run conditions limit world backend files).result = .ok folder) :
    ∃ loaded made, launch.Starts files loaded made ∧ folder = launch.folder loaded.profile := by
  rcases launch.starts_or_fails conditions limit world backend files with
    ⟨loaded, made, hstarts⟩ | ⟨-, fault, hfault⟩
  · rw [hstarts.run, result_ended] at h
    exact ⟨loaded, made, hstarts, (Session.folder_of_result h).symm⟩
  · exact nomatch h.symm.trans hfault

theorem entries_ne_nil_of_result
    (hload : Profile.load launch.source launch.settings.agentName = .ok loaded) {folder : Path}
    (h : (launch.run conditions limit world backend files).result = .ok folder) :
    folder = launch.folder loaded.profile ∧
      (launch.run conditions limit world backend files).entries ≠ [] := by
  obtain ⟨other, made, hstarts, hfolder⟩ := exists_starts_of_result h
  obtain rfl := Except.ok.inj (hload.symm.trans hstarts.loads)
  obtain ⟨rest, hrest⟩ := hstarts.exists_entries conditions limit world backend
  refine ⟨hfolder, ?_⟩
  rw [hrest]
  exact List.cons_ne_nil _ _

theorem Starts.result_of_ending (h : launch.Starts files loaded made)
    (hending : ((launch.started loaded.profile).run conditions limit world backend).ending =
      .finished) :
    (launch.run conditions limit world backend files).result =
      .ok (launch.folder loaded.profile) := by
  rw [h.run, result_ended, Session.result, hending]
  rfl

/-- The diary of a run that started holds what it held before and then the entries of the run that
can be written. -/
theorem Starts.isOpen (h : launch.Starts files loaded made) (conditions : Conditions)
    (limit : Nat) (world : σ) (backend : γ) :
    (launch.run conditions limit world backend files).files.IsOpen (launch.diary loaded.profile)
      (launch.diary loaded.profile).place
      (files.bytesAt (launch.diary loaded.profile).place ++ Diary.bytesOf
        (Diary.written (launch.run conditions limit world backend files).entries)) := by
  have hwritable := h.opens
  unfold Diary.isWritable at hwritable
  obtain ⟨rest, hrest⟩ := h.exists_entries conditions limit world backend
  cases hcreate : made.create (launch.diary loaded.profile) [] with
  | error fault =>
      rw [hcreate] at hwritable
      exact nomatch hwritable
  | ok opened =>
      have hbefore : made.bytesAt (launch.diary loaded.profile).place =
          files.bytesAt (launch.diary loaded.profile).place :=
        Files.bytesAt_congr (Files.fileAt?_makeFolders h.makes _)
      have hopened := Files.IsOpen.of_create hcreate
      rw [List.append_nil, hbefore] at hopened
      have hheader : (launch.header loaded.profile).IsWritable := Session.isWritable_header _
      obtain ⟨after, hafter, hgrown⟩ := Diary.append_of_isWritable hheader hcreate hopened
      have hfiles : (launch.run conditions limit world backend files).files =
          Diary.changed after (rest.map (.add (launch.diary loaded.profile))) := by
        rw [h.files_eq, hrest, List.map_cons, Diary.changed, List.foldl_cons, Diary.apply_add,
          hafter]
        rfl
      rw [hfiles, hrest, Diary.written_cons hheader, Diary.bytesOf_cons, ← List.append_assoc]
      exact Diary.isOpen_changed_add hgrown rest

theorem Starts.exists_put (h : launch.Starts files loaded made)
    (hnew : made.node? (launch.diary loaded.profile).place = none) (conditions : Conditions)
    (limit : Nat) (world : σ) (backend : γ) :
    ∃ bytes, (launch.run conditions limit world backend files).files =
      made.put (launch.diary loaded.profile).place (.file bytes) := by
  have hfolder : made.makeFolders (launch.diary loaded.profile).parent = .ok made := by
    rw [diary, Diary.parent_fileIn]
    exact (Files.makeFolders_spec h.makes).2 made (.refl made)
  rcases Diary.exists_changed_put hfolder
    (launch.run conditions limit world backend files).entries with hsame | hput
  · have hthere := (h.isOpen conditions limit world backend).node
    rw [h.files_eq, hsame, hnew] at hthere
    exact nomatch hthere
  · rw [h.files_eq]
    exact hput

/-! ## What a diary is left with -/

/-- There is a profile to run under, and a folder can be made for the run in which a diary can be
kept and none is. -/
structure Opens (launch : Launch σ γ) (files : Files) (loaded : Profile.Loaded)
    (made : Files) : Prop where
  loads : Profile.load launch.source launch.settings.agentName = .ok loaded
  makes : Diary.openFolder files (launch.folder loaded.profile) = .ok made
  fresh : ∃ opened, made.create (Diary.fileIn (launch.folder loaded.profile)) [] = .ok opened ∧
    opened.read (Diary.fileIn (launch.folder loaded.profile)) = .ok []

theorem Opens.starts (h : launch.Opens files loaded made) : launch.Starts files loaded made := by
  obtain ⟨opened, hcreate, -⟩ := h.fresh
  refine ⟨h.loads, h.makes, ?_⟩
  unfold Diary.isWritable diary
  rw [hcreate]

theorem Opens.bytesAt_diary (h : launch.Opens files loaded made) :
    files.bytesAt (launch.diary loaded.profile).place = [] := by
  obtain ⟨opened, hcreate, hnothing⟩ := h.fresh
  have hread := (Files.IsOpen.of_create hcreate).read
  rw [List.append_nil] at hread
  have hmade : made.bytesAt (launch.diary loaded.profile).place = [] :=
    Except.ok.inj (hread.symm.trans hnothing)
  rw [← hmade]
  exact (Files.bytesAt_congr (Files.fileAt?_makeFolders h.makes _)).symm

/-- Where a diary can be kept, a run with a backend that answers in words leaves a header in it and
then, if the backend or the body was unavailable, that fault, which is also what the run comes to;
nothing more if another fault kept the run from starting; and otherwise the entries of its turns,
numbered from one on, each of them its record, with the fault before it that the turn caught or with
what was said after it, and in the end their number. Only a turn that cannot be written is left
without its record, and no other turn follows it. The file has a line for each entry. -/
theorem run_leaves (hopens : launch.Opens files loaded made) {backend : γ}
    (hwords : launch.supply.used.AnswersInWords backend) (conditions : Conditions) (limit : Nat)
    (world : σ) :
    let session := launch.opened made loaded
    let file := Diary.fileIn session.folder
    let finish := session.run conditions limit world backend
    let launched := launch.run conditions limit world backend files
    launched.finish? = some (file, finish) ∧ launched.result = session.result finish ∧
      ∃ rest, Event.entries finish.trace = session.header :: rest ∧
        session.Leaves conditions world backend finish rest ∧
        ∃ bytes, launched.files.read file = .ok bytes ∧
          Diary.linesOf bytes = .ok ((session.header :: rest).map Diary.Entry.lineChars) := by
  intro session file finish launched
  have hstarts := hopens.starts
  have hkept : ∀ writes, session.agent.hitch? writes = none := hitch?_opened hstarts.opens
  obtain ⟨rest, hentries, hleaves⟩ :=
    session.hasDiary_run hkept rfl hwords conditions limit world
  have hlaunched : launched = ended session loaded.logs made finish :=
    run_of_made hopens.loads hopens.makes
  have hall : Diary.written (Event.entries finish.trace) = Event.entries finish.trace :=
    List.filter_eq_self.2 fun entry hentry =>
      decide_eq_true (session.keepsWritable_run conditions limit world backend entry hentry)
  have hread := (hstarts.isOpen conditions limit world backend).read
  rw [hopens.bytesAt_diary, List.nil_append, run_of_made hopens.loads hopens.makes, entries_ended,
    hall, hentries] at hread
  have hfinish : launched.finish? = some (file, finish) := by rw [hlaunched, finish?_ended]
  have hresult : launched.result = session.result finish := by rw [hlaunched, result_ended]
  refine ⟨hfinish, hresult, rest, hentries, hleaves, _, ?_,
    Diary.linesOf_textOf (session.header :: rest)⟩
  rw [hlaunched]
  exact hread

end Nesting

def logs : Place := Place.top.child "logs"

def dazzled : Launch (World × Nat) Script where
  settings := { turns := some 2 }
  source := .unnamed
  body := World.body.obstructed fun time =>
    if time = 1 then some ⟨.runtime, some "dazzled", ""⟩ else none
  supply := { given? := some { backend := Script.backend }, made := Script.backend }
  clock := fun _ => Diary.sampleTime

def dazzledFolders : Files :=
  Files.put (Files.put {} logs .folder) (logs.child "agent_2024-02-29T23-59-59Z") .folder

section Dazzled

attribute [local instance] Json.Nesting.usual

theorem opens_dazzled : dazzled.Opens {} ⟨{}, []⟩ dazzledFolders := by
  have hfolder : dazzled.folder {} = ⟨.here, ["logs", "agent_2024-02-29T23-59-59Z"]⟩ := by
    decide
  constructor
  case loads => rfl
  case makes =>
    rw [hfolder]
    cbv
  case fresh =>
    rw [hfolder]
    refine ⟨dazzledFolders.put ((logs.child "agent_2024-02-29T23-59-59Z").child "diary.jsonl")
      (.file []), ?_, ?_⟩
    · cbv
    · cbv

/-- Whether its diary can be written to is settled, so that a run of it can be evaluated. -/
theorem opened_dazzled :
    dazzled.opened dazzledFolders ⟨{}, []⟩ = dazzled.started {} :=
  opens_dazzled.starts.opened_eq

theorem dazzled_leaves :
    let session := dazzled.opened dazzledFolders ⟨{}, []⟩
    let script := Script.ofTexts ["ACTION: chat hello"]
    let finish := session.run {} 2 ({}, 0) script
    let launched := dazzled.run {} 2 ({}, 0) script {}
    launched.result = .ok session.folder ∧ finish.turns.length = 2 ∧
      ∃ rest bytes, session.Leaves {} ({}, 0) script finish rest ∧ rest.length = 5 ∧
        launched.files.read (Diary.fileIn session.folder) = .ok bytes ∧
        Diary.linesOf bytes = .ok ((session.header :: rest).map Diary.Entry.lineChars) := by
  intro session script finish launched
  have hwords : dazzled.supply.used.AnswersInWords script := Script.answersInWords_ofTexts _
  obtain ⟨-, hresult, rest, hentries, hleaves, bytes, hread, hlines⟩ :=
    run_leaves opens_dazzled hwords {} 2 ({}, 0)
  have hrun : finish.turns.length = 2 ∧ finish.ending = .finished ∧
      (Event.entries finish.trace).length = 6 := by
    simp only [finish, session]
    rw [opened_dazzled]
    decide +kernel
  obtain ⟨hturns, hending, hlength⟩ := hrun
  rw [hentries] at hlength
  refine ⟨?_, hturns, rest, bytes, hleaves, Nat.succ.inj hlength, hread, hlines⟩
  rw [hresult]
  unfold Session.result
  rw [hending]

/-- In a world in which too much is carried to be written, two turns of it are begun, but there is
a record of the first only, in which nothing was seen. -/
theorem dazzled_hoard_loses_turn :
    let session := dazzled.opened dazzledFolders ⟨{}, []⟩
    let finish := session.run {} 2 (Agent.hoard, 0) (Script.ofTexts ["ACTION: chat hello"])
    finish.turns.length = 2 ∧
      (Event.entries finish.trace).filterMap (fun
        | .cycle record => some record.tick
        | _ => none) = [1] ∧
      (Event.entries finish.trace).getLast?.map Diary.Entry.line =
        some (session.shutdownEntry 2).line := by
  intro session finish
  simp only [finish, session]
  rw [opened_dazzled]
  decide +kernel

end Dazzled

/-! ## Short runs -/

def brief (name : String) (time : Instant) : Launch World Script where
  settings := { agentName := name, turns := some 1 }
  source := .unnamed
  body := World.body
  supply := { given? := some { backend := Script.backend }, made := Script.backend }
  clock := fun _ => time

def idle : Script := .ofTexts ["ACTION: wait"]

section Brief

variable [Json.Nesting]

theorem load_brief (name : String) (time : Instant) :
    Profile.load (brief name time).source (brief name time).settings.agentName =
      .ok ⟨{ name }, []⟩ :=
  rfl

/-- The one turn of such a run sees nothing that cannot be written, and is answered in words. -/
theorem brief_connected (name : String) (time : Instant) {state : Cycle.State World Script}
    (hworld : state.world = World.connect {}) (htick : state.tick = 0)
    (hanswers : state.backend.answers = idle.answers) (trace : List Event) :
    (((brief name time).started { name }).connected {} 1 state trace).ending = .finished := by
  let session := (brief name time).started { name }
  let turn := session.agent.turn state
  have hone : turn.state.tick = 1 := by
    rw [← Int.zero_add 1, ← htick]
    rfl
  have hcount : turn.IsCountable := by
    refine ⟨by rw [hone]; decide, fun seen hseen item hitem => ?_⟩
    have hok : (World.connect {}).observe.toBool = true := by decide +kernel
    obtain ⟨noticed, hobserve, hnothing⟩ := Cycle.Agent.exists_observe_inventory hok
    have hsees : session.agent.Sees state noticed := (congrArg World.observe hworld).trans hobserve
    have hsame := (Cycle.Agent.observation?_of_sees hsees).symm.trans hseen
    rw [← Option.some.inj hsame, hnothing] at hitem
    exact nomatch hitem
  obtain ⟨record, hrecord⟩ := Cycle.Agent.exists_record
    (Cycle.Agent.hearsWords_of_texts ["ACTION: wait"] rfl hanswers) (.inr hcount)
  obtain ⟨later, hreach⟩ : ∃ later, (session.underSettings {}).reach turn 1 trace =
      ⟨turn.state, later, some .finished⟩ := by
    unfold Cycle.Conditions.reach
    rw [hrecord]
    exact ⟨_, rfl⟩
  have hcourse : session.agent.course (session.underSettings {}) 1 state trace =
      ⟨turn.state, [turn], later, .finished⟩ := by
    unfold Cycle.Agent.course Cycle.Agent.courseFrom
    simp only [hreach, turn]
    rfl
  have hkept : ∀ writes, session.agent.hitch? writes = none := fun _ => rfl
  have hclosed : (session.shutdownEntry turn.state.tick).IsWritable := by
    rw [hone]
    exact Session.isWritable_shutdownEntry.2 (by decide)
  change (session.connected {} 1 state trace).ending = .finished
  rw [Session.connected, hcourse, Session.closing]
  dsimp only
  rw [Session.afterEntry_of_isWritable hkept hclosed]
  rfl

theorem brief_finished (name : String) (time : Instant) :
    (((brief name time).started { name }).run {} 1 {} idle).ending = .finished := by
  let session := (brief name time).started { name }
  have hkept : ∀ writes, session.agent.hitch? writes = none := fun _ => rfl
  have hmade : session.supply.obstacle? = none := rfl
  have hready : ∀ backend, (session.agent.backend.ready backend).result = .ok () := fun _ => rfl
  have hconnect : ∀ world, (session.agent.body.connect world).result = .ok () := fun _ => rfl
  have hworld : ∀ world, (session.agent.body.connect world).state = world.connect := fun _ => rfl
  have hgiven : session.supply.isReturned = false := rfl
  have howes : ¬ session.OwesBackend := fun howes => nomatch hgiven.symm.trans howes.1
  change (session.run {} 1 {} idle).ending = .finished
  rw [Session.run, Session.afterEntry_of_isWritable hkept session.isWritable_header, Session.begun]
  simp only [hmade, Session.waiting, hready, Session.readied, Bool.false_eq_true, ↓reduceIte,
    hconnect]
  rw [Session.released_of_not_owes session (.inr howes)]
  exact brief_connected name time (hworld _) rfl rfl _

end Brief

section Ada

attribute [local instance] Json.Nesting.usual

theorem folder_ada : (brief "Ada" Diary.sampleTime).folder { name := "Ada" } =
    ⟨.here, ["logs", "ada_2024-02-29T23-59-59Z"]⟩ := by
  decide

theorem starts_ada : (brief "Ada" Diary.sampleTime).Starts {} ⟨{ name := "Ada" }, []⟩
    ((Files.put {} logs .folder).put (logs.child "ada_2024-02-29T23-59-59Z") .folder) := by
  constructor
  case loads => rfl
  case makes =>
    rw [folder_ada]
    cbv
  case opens =>
    rw [diary, folder_ada]
    cbv

theorem result_ada : ((brief "Ada" Diary.sampleTime).run {} 1 {} idle {}).result =
    .ok ⟨.here, ["logs", "ada_2024-02-29T23-59-59Z"]⟩ := by
  rw [starts_ada.result_of_ending (brief_finished "Ada" Diary.sampleTime)]
  exact congrArg Except.ok folder_ada

end Ada

end Launch

end Rulebound
