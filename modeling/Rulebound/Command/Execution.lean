import Rulebound.Command.Order
import Rulebound.Diary.Reader
import Rulebound.Session
import Rulebound.View
import Rulebound.World
import Rulebound.World.Operation

/-!
# Execution of orders

What an order does: it replays a diary, follows one, or runs the agent in the starting world.
Without a run folder in the order, the diary is that of the latest run.
-/

namespace Rulebound.Command

inductive Output where
  | line (text : String)
  | view (view : View)
  /-- From now on messages of a level are shown, and all are written to a file. -/
  | logging (level : Log.Level) (file : Path)
  /-- A diary is followed for as long as the operator wants. -/
  | follow (diary : Path)
deriving Repr

inductive Ending where
  | code (number : Nat)
  /-- Nothing could be done, for a reason. -/
  | refused (reason : String)
  | faulted (fault : Fault)
deriving DecidableEq, Repr

structure Execution where
  outputs : List Output
  ending : Ending
  files : Files

structure Surroundings where
  environment : Settings.Environment
  clock : Int → Instant
  /-- The link to the model server, if one is asked for. -/
  link : Link
  library? : Option ModelLibrary := none

/-- Views of records one after another, and the fault of the first that cannot be shown. -/
def viewsOf : List Cycle.Record → List Output × Option Fault
  | [] => ([], none)
  | record :: rest =>
      match View.ofRecord record with
      | .error fault => ([], some fault)
      | .ok view =>
          let (views, fault?) := viewsOf rest
          (.view view :: views, fault?)

namespace Order

variable [Json.Nesting]

def noRunFolder : String := "No run folder found. Run the agent first."

def folderToView (order : Order) (settings : Settings) (files : Files) :
    Except Fault (Option Path) :=
  match order.runFolder with
  | some folder => .ok (some folder)
  | none => Diary.latestFolder files settings.logFolder

def replay (files : Files) (diary : Path) : Execution :=
  match files.read diary with
  | .error fault => ⟨[], .faulted fault, files⟩
  | .ok bytes =>
      let readings := Diary.readRecords bytes
      let (views, fault?) := viewsOf readings.records
      let ending := match fault?.or readings.fault? with
        | some fault => Ending.faulted fault
        | none => .code 0
      ⟨views, ending, files⟩

def look (order : Order) (settings : Settings) (files : Files) : Execution :=
  match order.folderToView settings files with
  | .error fault => ⟨[], .faulted fault, files⟩
  | .ok none => ⟨[], .refused noRunFolder, files⟩
  | .ok (some folder) =>
      if order.views then ⟨[.follow (Diary.fileIn folder)], .code 0, files⟩
      else replay files (Diary.fileIn folder)

def logName : String := "craftmind.log"

def logging (order : Order) (settings : Settings) : Output :=
  .logging (if order.isVerbose then .debug else .info) (settings.logFolder.within logName)

def launch (settings : Settings) (surroundings : Surroundings) (files : Files) :
    Launch World BackendChoice.State where
  settings
  source := Profile.Source.ofFile files settings.profilePath
  body := World.body
  supply := { made := (BackendChoice.ofSettings settings).backend surroundings.library? }
  clock := surroundings.clock

def cycleViews (order : Order) (launched : Launched World BackendChoice.State) : List Output :=
  if order.showsCycles then
    let trace := (launched.finish?.map fun (_, finish) => finish.trace).getD []
    (viewsOf (Event.records trace)).1
  else []

/-- What decides about a run from outside: a record that is to be shown and cannot be ends it. -/
def conditions (order : Order) : Cycle.Conditions where
  objection _ record := if order.showsCycles then (viewsOf [record]).2 else none

/-- How a run ends for the operator: with its diary, or with what went wrong. -/
def report (result : Except Fault Path) : List Output × Ending :=
  match result with
  | .ok folder => ([.line ("Diary saved to " ++ folder.text)], .code 0)
  | .error fault => ([], if fault.kind.isUnavailable then .code 1 else .faulted fault)

/-- Running the agent, of whose turns at most `limit` are looked at. -/
def play (order : Order) (settings : Settings) (surroundings : Surroundings) (limit : Nat)
    (files : Files) : Execution :=
  let launch := launch settings surroundings files
  let start := (BackendChoice.ofSettings settings).start surroundings.link
  let launched := launch.run order.conditions limit World.starter start files
  let (last, ending) := report launched.result
  ⟨order.logging settings :: order.cycleViews launched ++ last, ending, launched.files⟩

def execute (order : Order) (surroundings : Surroundings) (files : Files) : Execution :=
  match (Settings.resolve order.request surroundings.environment).toExcept with
  | .error fault => ⟨[], .faulted fault, files⟩
  | .ok settings =>
      if order.views || order.replays then order.look settings files
      else order.play settings surroundings ((settings.turns.getD 0).toNat + 1) files

end Order

end Rulebound.Command
