import Rulebound.Command.Execution
import Rulebound.Diary.Follower
import Rulebound.Log
import Rulebound.View
import Std.Time.DateTime

/-!
# Command line

Reads the command line, the environment and the files that an order needs, executes the order, and
puts what comes of it on the console and into the files. A run is shown turn by turn while it goes
on. The runs of a log folder are found through the log that every run leaves there.
-/

namespace Rulebound.Main

open Command

local instance : Json.Nesting := .usual

def now : IO Instant := do
  let time ← Std.Time.Timestamp.now
  return .ofMicroseconds (time.toNanosecondsSinceUnixEpoch.val.toNat / 1000)

def environment : IO Settings.Environment := do
  let names := ["CRAFTMIND_AGENT_CONFIG", "CRAFTMIND_AGENT_NAME", "CRAFTMIND_LLM",
    "CRAFTMIND_MODEL_ID", "CRAFTMIND_OLLAMA_HOST", "CRAFTMIND_DECISION_INTERVAL",
    "CRAFTMIND_LOG_DIR"]
  let values ← names.mapM fun name => return (name, ← IO.getEnv name)
  return fun name => (values.lookup name).join

def readBytes? (path : Path) : IO (Option (List UInt8)) := do
  try
    return some (← IO.FS.readBinFile path.text).toList
  catch _ => return none

def addFile (files : Files) (path : Path) : IO Files := do
  match ← readBytes? path with
  | some bytes => return (files.create path bytes).toOption.getD files
  | none => return files

def appendLine (path : Path) (line : String) : IO Unit := do
  IO.FS.createDirAll path.parent.text
  let file ← IO.FS.Handle.mk path.text .append
  file.putStrLn line

/-- The diaries that a log speaks of, in its order. -/
def diariesIn (log : List UInt8) : List Path :=
  (Diary.linesOfBytes log).filterMap fun line =>
    match line.splitOn " - INFO - Diary: " with
    | [_, place] => some (.ofText place)
    | _ => none

/-- The files with the diaries of a log folder. A later run counts as changed later. -/
def addDiaries (files : Files) (folder : Path) : IO Files := do
  let log ← readBytes? (folder.within Order.logName)
  (diariesIn (log.getD [])).foldlM (fun files diary => do
    let files ← addFile files diary
    return { (files.touch diary.parent files.now) with now := files.now + 1 }) files

def showRecord (record : Cycle.Record) : IO Unit := do
  if let .ok view := View.ofRecord record then view.lines.forM IO.println

def showEvent (order : Order) (settings : Settings) (diary : Path) (event : Event) : IO Unit := do
  match event with
  | .log line =>
      let outlets : Log.Outlets :=
        ⟨if order.isVerbose then .debug else .info, some (settings.logFolder.within Order.logName)⟩
      let message : Log.Message := ⟨"craftmind", line.level, line.text⟩
      if outlets.shows message then IO.println (line.level.name ++ " " ++ line.text)
      if let some file := outlets.fileFor? message then
        appendLine file ((← now).text ++ " - " ++ message.line)
  | .write entry true => appendLine diary entry.line
  | .hand record =>
      if order.showsCycles then showRecord record
  | .pause =>
      match settings.interval with
      | .finite false units _ => IO.sleep (units * 1000 / Binary64.stepsPerOne).toUInt32
      | _ => return
  | _ => return

/-- A run from its beginning to its end. Each round looks at one turn more, and shows what the
rounds before have not shown. -/
def play (order : Order) (settings : Settings) (files : Files) : IO UInt32 := do
  let began ← now
  let mut shown := 0
  let mut limit := 1
  repeat
    let time ← now
    let surroundings : Surroundings := {
      environment := fun _ => none
      clock := fun tick => if tick = 0 then began else time
      link := .down "there is no way to a server" }
    let launched := (Order.launch settings surroundings files).run order.conditions limit
      World.starter ((BackendChoice.ofSettings settings).start surroundings.link) files
    let diary := (launched.finish?.map Prod.fst).getD settings.logFolder
    let trace := (launched.finish?.map fun (_, finish) => finish.trace).getD []
    let events := (if shown = 0 then Event.notes launched.logs else []) ++ trace.drop shown
    events.forM (showEvent order settings diary)
    shown := trace.length
    limit := limit + 1
    let goesOn := match launched.finish? with
      | some (_, finish) => decide (finish.ending = .unfinished)
      | none => false
    if !goesOn then
      match Order.report launched.result, launched.result with
      | (outputs, .code number), result =>
          for output in outputs do
            if let .line text := output then IO.println text
          if let .error fault := result then IO.eprintln ("Fatal startup error: " ++ fault.text)
          return number.toUInt32
      | (_, .refused reason), _ => IO.eprintln reason
      | (_, .faulted fault), _ => IO.eprintln (fault.kind.name ++ ": " ++ fault.text)
      return 1
  return 1

/-- Showing the records of a diary and then those that are added to it, until the program is
ended. -/
def follow (diary : Path) : IO Unit := do
  let mut shown := 0
  repeat
    let bytes ← readBytes? diary
    let records := (Diary.readRecords (bytes.getD [])).records
    (records.drop shown).forM showRecord
    shown := max shown records.length
    IO.sleep 200

def put : Output → IO Unit
  | .line text => IO.println text
  | .view view => view.lines.forM IO.println
  | .logging .. => return
  | .follow diary => follow diary

def look (order : Order) (settings : Settings) : IO UInt32 := do
  let files ← match order.runFolder with
    | some folder => addFile {} (Diary.fileIn folder)
    | none => addDiaries {} settings.logFolder
  let execution := order.look settings files
  execution.outputs.forM put
  match execution.ending with
  | .code number => return number.toUInt32
  | .refused reason => IO.eprintln reason
  | .faulted fault => IO.eprintln (fault.kind.name ++ ": " ++ fault.text)
  return 1

def helpLine (switch : Switch) : String :=
  "  " ++ Text.join ", " switch.spellings ++ (if switch.takesValue then " VALUE" else "") ++
    "  " ++ switch.purpose

end Rulebound.Main

open Rulebound Rulebound.Main Rulebound.Command in
/-- Runs a rule-bound agent, or shows the diary of a run. -/
def main (arguments : List String) : IO UInt32 := do
  match Reading.ofTexts arguments with
  | .help =>
      IO.println "Run a rule-bound Minecraft agent."
      (Switch.all.map helpLine).forM IO.println
      return 0
  | .misuse misuse =>
      IO.eprintln ("error: " ++ misuse.text)
      return 2
  | .order order =>
      match (Settings.resolve order.request (← environment)).toExcept with
      | .error fault =>
          IO.eprintln (fault.kind.name ++ ": " ++ fault.text)
          return 1
      | .ok settings =>
          if order.views || order.replays then look order settings
          else
            let files ← match settings.profilePath with
              | some path => addFile {} path
              | none => pure {}
            play order settings files
