import Rulebound.Backend.Choice
import Rulebound.Cycle.Course
import Rulebound.Diary.Folder

/-!
# Sessions

A whole run of an agent: its diary is begun, its backend and its body are made ready, it takes its
turns, and in the end, however it comes, the body is left and the diary is closed with an event.
What keeps the backend or the body from becoming ready is written to the diary.
-/

namespace Rulebound

open Rulebound.Cycle

variable {σ γ : Type}

structure Session (σ γ : Type) where
  settings : Settings
  agent : Agent σ γ
  /-- The folder of the run. -/
  folder : Path
  supply : Supply γ
  isSupplied : agent.backend = supply.used

/-- How a run went: the state it ended in, its turns, everything that happened, and its end. -/
abbrev Session.Finish (σ γ : Type) := Course σ γ

namespace Session

/-- What a run says about itself in the header of its diary. -/
def metadata (session : Session σ γ) : Json :=
  .object [
    ("run_id", .string session.folder.name),
    ("llm_backend", .string session.settings.backend),
    ("model_id", .string session.settings.model),
    ("decision_interval", .float session.settings.interval)]

def header (session : Session σ γ) : Diary.Entry :=
  .header (session.agent.clock 0) session.agent.profile session.metadata

def openingLogs (session : Session σ γ) : List Log.Line := [
  .info ("Starting " ++ session.agent.profile.name ++ " with goal: " ++ session.agent.profile.goal),
  .info ("Diary: " ++ (Diary.fileIn session.folder).text)]

def awaitingLog (session : Session σ γ) : Log.Line :=
  .info ("Waiting for " ++ session.settings.backend ++ " backend...")

def shutdownEntry (session : Session σ γ) (ticks : Int) : Diary.Entry :=
  .event (session.agent.clock ticks) "shutdown" (.object [("ticks", .int ticks)])

variable [Json.Nesting]

/-- A run after an entry that has to be written: it goes on as given, or ends with a fault. -/
def afterEntry (session : Session σ γ) (state : State σ γ) (trace : List Event)
    (entry : Diary.Entry) (next : State σ γ → List Event → Finish σ γ) : Finish σ γ :=
  let written := { state with writes := state.writes + 1 }
  match session.agent.obstruction? state.writes entry with
  | none => next written (trace ++ [.write entry true])
  | some fault => ⟨written, [], trace ++ [.write entry false], .faulted fault⟩

def endWith (ending : Ending) (state : State σ γ) (trace : List Event) : Finish σ γ :=
  ⟨state, [], trace, ending⟩

/-- A run whose backend or body reported a fault before the first turn. -/
def failedStart (session : Session σ γ) (fault : Fault) (state : State σ γ)
    (trace : List Event) : Finish σ γ :=
  if fault.kind.isUnavailable then
    session.afterEntry state trace (.error (session.agent.clock 0) "Startup failed" fault)
      (endWith (.faulted fault))
  else endWith (.faulted fault) state trace

def closing (session : Session σ γ) (course : Course σ γ) : Finish σ γ :=
  match course.ending with
  | .unfinished => course
  | ending =>
      let (world, logs) := session.agent.body.disconnect course.state.world
      let trace := course.trace ++ [.log (.info "Shutting down..."), .disconnect] ++
        Event.notes logs
      let finish := session.afterEntry { course.state with world } trace
        (session.shutdownEntry course.state.tick) (endWith ending)
      { finish with turns := course.turns }

/-- Conditions with the number of turns and the interval that the settings say. -/
def underSettings (session : Session σ γ) (conditions : Conditions) : Conditions :=
  { conditions with turns := session.settings.turns, interval := session.settings.interval }

def connected (session : Session σ γ) (conditions : Conditions) (limit : Nat)
    (state : State σ γ) (trace : List Event) : Finish σ γ :=
  session.closing (session.agent.course (session.underSettings conditions) limit state trace)

/-- A run whose backend is ready: unless it was asked to stop, the body is connected to. -/
def readied (session : Session σ γ) (conditions : Conditions) (limit : Nat)
    (state : State σ γ) (trace : List Event) : Finish σ γ :=
  if conditions.isStopped trace then
    session.afterEntry state (trace ++ [.log (.info "Stopped before startup finished")])
      (session.shutdownEntry 0) (endWith .stopped)
  else
    let outcome := session.agent.body.connect state.world
    let state := { state with world := outcome.state }
    match outcome.result with
    | .error fault =>
        session.failedStart fault state
          (trace ++ .connect false :: Event.notes outcome.logs)
    | .ok () =>
        session.connected conditions limit state
          (trace ++ .connect true :: Event.notes outcome.logs)

def waiting (session : Session σ γ) (conditions : Conditions) (limit : Nat)
    (state : State σ γ) (trace : List Event) : Finish σ γ :=
  let trace := trace ++ [.log session.awaitingLog]
  let outcome := session.agent.backend.ready state.backend
  let state := { state with backend := outcome.state }
  match outcome.result with
  | .error fault =>
      session.failedStart fault state (trace ++ Event.notes outcome.logs ++ [.ready false])
  | .ok () =>
      session.readied conditions limit state
        (trace ++ Event.notes outcome.logs ++ [.ready true])

/-- A run whose backend is given back, if none was given and it holds anything. -/
def released (session : Session σ γ) (finish : Finish σ γ) : Finish σ γ :=
  match finish.ending with
  | .unfinished => finish
  | _ =>
      if session.supply.isReturned && session.agent.backend.closes then
        { finish with trace := finish.trace ++ [.close] }
      else finish

/-- A run whose diary is begun: unless the backend cannot be made, it is waited for, and in the end
it is given back. -/
def begun (session : Session σ γ) (conditions : Conditions) (limit : Nat)
    (state : State σ γ) (trace : List Event) : Finish σ γ :=
  let trace := trace ++ Event.notes session.openingLogs
  match session.supply.obstacle? with
  | some fault => endWith (.faulted fault) state trace
  | none => session.released (session.waiting conditions limit state trace)

def start (session : Session σ γ) (world : σ) (backend : γ) : State σ γ :=
  { world, backend, book := .ofTexts session.agent.profile.rules }

def run (session : Session σ γ) (conditions : Conditions) (limit : Nat) (world : σ)
    (backend : γ) : Finish σ γ :=
  session.afterEntry (session.start world backend) [] session.header
    (session.begun conditions limit)

/-- The folder of the run, or the fault that ended it. -/
def result (session : Session σ γ) (finish : Finish σ γ) : Except Fault Path :=
  match finish.ending with
  | .faulted fault => .error fault
  | _ => .ok session.folder

end Session

/-! ## Runs that leave files -/

def Profile.Source.ofFile (files : Files) (path? : Option Path) : Profile.Source :=
  match path? with
  | none => .unnamed
  | some path =>
      match files.read path with
      | .ok bytes => .file path bytes
      | .error fault => .unreadable path fault

structure Launch (σ γ : Type) where
  settings : Settings
  /-- What is found where the profile should be. -/
  source : Profile.Source
  body : Body σ
  supply : Supply γ
  clock : Int → Instant

/-- A run with what was noted before it began, and the files that it leaves. -/
structure Launched (σ γ : Type) where
  result : Except Fault Path
  logs : List Log.Line
  files : Files
  /-- The file of the diary and how the run went, if it began. -/
  finish? : Option (Path × Session.Finish σ γ)

namespace Launch

variable [Json.Nesting]

/-- The files with what a run kept in its diary, and the fault that ended the writing. -/
def record (files : Files) (file : Path) : List Diary.Entry → Files × Option Fault
  | [] => (files, none)
  | entry :: rest =>
      match Diary.append files file entry with
      | .error fault => (files, some fault)
      | .ok files => record files file rest

def refused (files : Files) (logs : List Log.Line) (fault : Fault) : Launched σ γ :=
  ⟨.error fault, logs, files, none⟩

def session (launch : Launch σ γ) (files : Files) (profile : Profile) (folder : Path) :
    Session σ γ where
  settings := launch.settings
  folder
  supply := launch.supply
  isSupplied := rfl
  agent := {
    profile
    body := launch.body
    backend := launch.supply.used
    diary? := some (Diary.fileIn folder)
    hitch? := fun _ =>
      if Diary.isWritable files (Diary.fileIn folder) then none else some .opening
    clock := launch.clock }

def run (launch : Launch σ γ) (conditions : Conditions) (limit : Nat) (world : σ) (backend : γ)
    (files : Files) : Launched σ γ :=
  match Profile.load launch.source launch.settings.agentName with
  | .error fault => refused files [] fault
  | .ok loaded =>
      let folder := Diary.runFolder launch.settings.logFolder loaded.profile.name
        (launch.clock 0).stamp
      match Diary.openFolder files folder with
      | .error fault => refused files loaded.logs fault
      | .ok files =>
          let session := launch.session files loaded.profile folder
          let finish := session.run conditions limit world backend
          let file := Diary.fileIn folder
          let (files, fault?) := record files file (Event.entries finish.trace)
          ⟨fault?.elim (session.result finish) .error, loaded.logs, files, some (file, finish)⟩

end Launch

end Rulebound
