import Rulebound.Text.Search

/-!
# Paths

Names of files and folders. A path is kept as the parts between its slashes, without empty parts
and single dots; a part of two dots stays.
-/

namespace Rulebound

/-- Where a path starts. Two slashes at the front are a root of their own; more are one. -/
inductive PathStart where
  | here
  | root
  | otherRoot
deriving DecidableEq, Repr, Inhabited

def PathStart.text : PathStart → String
  | here => ""
  | root => "/"
  | otherRoot => "//"

/-- A path: where it starts, and the names on the way. -/
structure Path where
  start : PathStart
  parts : List String
deriving DecidableEq, Repr, Inhabited

namespace Path

def startOf (slashes : Nat) : PathStart :=
  if slashes = 0 then .here else if slashes = 2 then .otherRoot else .root

def isPart (piece : List Char) : Bool :=
  !piece.isEmpty && piece != ['.']

def ofText (text : String) : Path where
  start := startOf (text.toList.takeWhile (· == '/')).length
  parts := ((Text.splitChars '/' text.toList).filter isPart).map String.ofList

/-- The path written with single slashes; one without any part that starts here is a dot. -/
def text (path : Path) : String :=
  let text := path.start.text ++ Text.join "/" path.parts
  if text = "" then "." else text

/-- A path that is followed from the end of another one, unless it starts at a root. -/
def append (folder path : Path) : Path :=
  if path.start = .here then ⟨folder.start, folder.parts ++ path.parts⟩ else path

instance : Append Path := ⟨append⟩

def within (folder : Path) (name : String) : Path :=
  folder ++ ofText name

def name (path : Path) : String :=
  path.parts.getLast?.getD ""

def parent (path : Path) : Path :=
  { path with parts := path.parts.dropLast }

end Path

end Rulebound
