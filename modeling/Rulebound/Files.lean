import Rulebound.Fault
import Rulebound.Path
import Rulebound.Table

/-!
# Files and folders

A tree of files and folders below a working folder. A place in the tree is given by the names that
lead to it. A folder counts as changed when something is put into it, and
every change is later than those before.
-/

namespace Rulebound

/-- A place: how deep it lies, and the names that lead to it, the last of them first. Places at
different depths are told apart without a look at the names. -/
structure Place where
  depth : Nat
  names : List String
  depth_eq : depth = names.length
deriving DecidableEq, Repr

namespace Place

/-- The working folder. -/
def top : Place := ⟨0, [], rfl⟩

instance : Inhabited Place := ⟨top⟩

def child (place : Place) (name : String) : Place :=
  ⟨place.depth + 1, name :: place.names, by simp [place.depth_eq]⟩

/-- The folder that a place is in. The working folder is its own. -/
def parent (place : Place) : Place :=
  ⟨place.depth - 1, place.names.tail, by simp [place.depth_eq]⟩

def name? (place : Place) : Option String :=
  place.names.head?

@[simp] theorem parent_child (place : Place) (name : String) :
    (place.child name).parent = place := by
  simp [child, parent]

@[simp] theorem name?_child (place : Place) (name : String) :
    (place.child name).name? = some name :=
  rfl

def text (place : Place) : String :=
  Text.join "/" place.names.reverse

end Place

inductive Node where
  | folder
  | file (bytes : List UInt8)
deriving DecidableEq, Repr, Inhabited

/-- A tree of files and folders. The working folder itself is always there. -/
structure Files where
  nodes : Table Place Node := .empty
  /-- When folders were changed last. -/
  changed : Table Place Int := .empty
  /-- The time of the next change. -/
  now : Int := 0
deriving DecidableEq, Inhabited

namespace Files

def noSuchFile : Fault := ⟨.fileMissing, some "No such file or directory", ""⟩
def alreadyThere : Fault := ⟨.fileExists, some "File exists", ""⟩
def notAFolder : Fault := ⟨.notDirectory, some "Not a directory", ""⟩
def isAFolder : Fault := ⟨.isDirectory, some "Is a directory", ""⟩
def nameTooLong : Fault := ⟨.os, some "File name too long", ""⟩
def nulInName : Fault := ⟨.value, some "embedded null byte", ""⟩
def tooManyFolders : Fault :=
  ⟨.recursion, some "maximum recursion depth exceeded while calling a Python object", ""⟩

def longestName : Nat := 255

def longestPath : Nat := 4095

/-- How many folders may be made on the way to a place. -/
def mostFolders : Nat := 988

def node? (files : Files) (place : Place) : Option Node :=
  if place.depth = 0 then some .folder else files.nodes.get? place

/-! ## From paths to places -/

/-- One name further: two dots lead back. What stands at the place so far has to be a folder, and
the name must not be too long. -/
def follow (files : Files) (place : Place) (name : String) : Except Fault Place :=
  match files.node? place with
  | none => .error noSuchFile
  | some (.file _) => .error notAFolder
  | some .folder =>
      if longestName < name.utf8ByteSize then .error nameTooLong
      else if name = ".." then .ok place.parent
      else .ok (place.child name)

/-- The place that a path starts from, if its names are good. A path from the root is taken to
start in a folder that is named by its slashes. -/
def startOf (path : Path) : Except Fault Place :=
  if path.parts.any (·.contains '\u0000') then .error nulInName
  else if longestPath < path.text.utf8ByteSize then .error nameTooLong
  else .ok (if path.start = .here then .top else Place.top.child path.start.text)

/-- The place that a path leads to; nothing need be there. -/
def locate (files : Files) (path : Path) : Except Fault Place := do
  path.parts.foldlM files.follow (← startOf path)

def find (files : Files) (path : Path) : Except Fault Node := do
  match files.node? (← files.locate path) with
  | some node => .ok node
  | none => .error noSuchFile

def isFolder (files : Files) (path : Path) : Bool :=
  match files.find path with
  | .ok .folder => true
  | _ => false

def read (files : Files) (path : Path) : Except Fault (List UInt8) := do
  match ← files.find path with
  | .file bytes => .ok bytes
  | .folder => .error isAFolder

/-! ## Changes -/

/-- The files with a node at a place; a new one changes the folder that it is in. -/
def put (files : Files) (place : Place) (node : Node) : Files :=
  let isNew := !files.nodes.contains place
  let nodes := files.nodes.insert place node
  if isNew then
    let changed := files.changed.insert place.parent files.now
    { nodes
      changed := if node = .folder then changed.insert place files.now else changed
      now := files.now + 1 }
  else { files with nodes }

/-- The files with all folders on the way that names lead from a place on, after some were made
before it. A file in the way is already there if its folder was reached through a new one; otherwise
only the last folder can be already there, and a file on the way is not a folder. -/
def makeFrom (made : Nat) (files : Files) (place : Place) : List String → Except Fault Files
  | [] => .ok files
  | name :: rest => do
      let next ← files.follow place name
      match files.node? next with
      | some .folder => makeFrom made files next rest
      | some (.file _) => .error (if 0 < made || rest.isEmpty then alreadyThere else notAFolder)
      | none =>
          if made = mostFolders then .error tooManyFolders
          else makeFrom (made + 1) (files.put next .folder) next rest

def makeFolders (files : Files) (path : Path) : Except Fault Files := do
  let place ← startOf path
  match files.node? place with
  | some _ => makeFrom 0 files place path.parts
  | none => makeFrom 1 (files.put place .folder) place path.parts

/-- The files with bytes at the end of a file, in a folder that is there. -/
def appendTo (files : Files) (path : Path) (bytes : List UInt8) : Except Fault Files := do
  let place ← files.locate path
  match files.node? place with
  | some .folder => .error isAFolder
  | some (.file before) => .ok (files.put place (.file (before ++ bytes)))
  | none => .ok (files.put place (.file bytes))

def create (files : Files) (path : Path) (bytes : List UInt8) : Except Fault Files := do
  (← files.makeFolders path.parent).appendTo path bytes

def touch (files : Files) (path : Path) (time : Int) : Files :=
  match files.locate path with
  | .ok place => { files with changed := files.changed.insert place time }
  | .error _ => files

/-! ## Looking around -/

def isChild (folder place : Place) : Bool :=
  decide (place.parent = folder ∧ place.depth ≠ 0)

/-- The names of what lies directly within a folder, in the order in which it was put there. -/
def namesIn (files : Files) (folder : Place) : List String :=
  (files.nodes.keys.filter (isChild folder)).filterMap (·.name?)

def changeTime (files : Files) (path : Path) : Int :=
  match files.locate path with
  | .ok place => (files.changed.get? place).getD 0
  | .error _ => 0

end Files

end Rulebound
