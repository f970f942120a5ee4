import Rulebound.Diary.Reader

/-!
# Following a diary

A follower shows the records of a diary while it grows. It waits for the file, then reads line by
line. Where the text ends within a line, what is there is read as a line of its own, and so is the
rest of it when it arrives.
-/

namespace Rulebound.Diary

variable [Json.Nesting]

/-- A follower: the text that is there and was not read yet, the records that were shown, and the
fault that ended it. -/
structure Follower where
  unread : List Char := []
  shown : List Cycle.Record := []
  fault? : Option Fault := none
deriving DecidableEq, Repr

namespace Follower

inductive Move where
  | arrive (piece : List Char)
  | poll

/-- The next line, with the text after it. Where nothing is left to read, and after a fault, there
is none. -/
def next? (follower : Follower) : Option (List Char × List Char) :=
  match follower.fault?, Text.firstLine follower.unread with
  | some _, _ | none, ([], _) => none
  | none, found => some found

def poll (follower : Follower) : Follower :=
  match follower.next? with
  | none => follower
  | some (line, rest) =>
      match Json.readAny line >>= recordOf with
      | .error fault => { follower with unread := rest, fault? := some fault }
      | .ok record =>
          { follower with unread := rest, shown := follower.shown ++ record.toList }

def move (follower : Follower) : Move → Follower
  | .arrive piece => { follower with unread := follower.unread ++ piece }
  | .poll => follower.poll

def run (follower : Follower) (moves : List Move) : Follower :=
  moves.foldl move follower

/-- The follower when nothing is left for it to read. No line is read that has no character. -/
def drained (follower : Follower) : Follower :=
  follower.run (List.replicate follower.unread.length .poll)

end Follower

/-- What a follower has shown, how often it has waited, and the fault that ended it. -/
structure Followed where
  shown : List Cycle.Record
  waits : Nat
  fault? : Option Fault
deriving DecidableEq, Repr

/-- The pieces of text that arrive, each at the end of one wait; nothing may arrive. -/
abbrev Arrivals := List (Option String)

/-- Following a diary that is there. After the last arrival the follower is told to stop. -/
def followFrom (follower : Follower) (arrivals : Arrivals) : Followed :=
  let drained := follower.drained
  match drained.fault?, arrivals with
  | some fault, _ => ⟨drained.shown, 0, some fault⟩
  | none, [] => ⟨drained.shown, 1, none⟩
  | none, piece :: arrivals =>
      let rest := followFrom (drained.move (.arrive (piece.getD "").toList)) arrivals
      { rest with waits := rest.waits + 1 }

/-- Following a diary. Without a text, the file is not there yet. -/
def follow : Option String → Arrivals → Followed
  | some text, arrivals => followFrom { unread := text.toList } arrivals
  | none, [] => ⟨[], 1, none⟩
  | none, piece :: arrivals =>
      let rest := follow piece arrivals
      { rest with waits := rest.waits + 1 }

end Rulebound.Diary
