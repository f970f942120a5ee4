import Rulebound.Diary.Entry
import Rulebound.Files
import Rulebound.Text.Case
import Rulebound.Text.Encoding

/-!
# Diary folders

Every run has a folder for its diary, named for the agent and for the time at which the run began.
-/

namespace Rulebound.Diary

variable [Json.Nesting]

def fileName : String := "diary.jsonl"

def runFolder (base : Path) (agent stamp : String) : Path :=
  base.within (Text.lower agent ++ "_" ++ stamp)

def fileIn (folder : Path) : Path :=
  folder.within fileName

def openFolder (files : Files) (folder : Path) : Except Fault Files :=
  files.makeFolders folder

/-- The files with an entry at the end of a diary. The diary is opened first, so that it is there
even if the entry cannot be written. -/
def append (files : Files) (file : Path) (entry : Entry) : Except Fault Files := do
  let opened ← files.create file []
  let text ← Json.write entry.toJson
  opened.appendTo file (Text.encode (text ++ ['\n']))

def isWritable (files : Files) (file : Path) : Bool :=
  match files.create file [] with
  | .ok _ => true
  | .error _ => false

/-- The folders within a place in which a run left a diary, in the order in which they are
listed. -/
def runFolders (files : Files) (base : Path) (place : Place) : List Path :=
  ((files.namesIn place).map base.within).filter fun folder =>
    files.isFolder folder && (files.find (fileIn folder)).toBool

/-- The later changed of two folders; of folders changed at the same time, the first. -/
def later (files : Files) (latest : Option Path) (folder : Path) : Option Path :=
  match latest with
  | none => some folder
  | some best => if files.changeTime best < files.changeTime folder then some folder else some best

/-- The folder of the latest run below a base. A base that is not there holds none. -/
def latestFolder (files : Files) (base : Path) : Except Fault (Option Path) :=
  match files.find base with
  | .error fault => if fault = Files.nameTooLong then .error fault else .ok none
  | .ok (.file _) => .error Files.notAFolder
  | .ok .folder => do
      return (runFolders files base (← files.locate base)).foldl (later files) none

def endedLines (text : List Char) : List String :=
  let lines := (Text.splitChars '\n' text).map String.ofList
  if lines.getLast? = some "" then lines.dropLast else lines

def linesOfBytes (bytes : List UInt8) : List String :=
  endedLines ((Text.decode? bytes).getD [])

end Rulebound.Diary
