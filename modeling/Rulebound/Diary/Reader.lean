import Rulebound.Cycle.Record
import Rulebound.Json.Reader
import Rulebound.Text.Encoding
import Rulebound.Text.Search

/-!
# Reading diaries

A diary is read line by line. A line that is not JSON, or whose value counts as nothing, is passed
over, and so is an entry of another type than the one that is looked for. Any other value that is
no entry is a fault, and so is a line that cannot be read for another reason.
-/

namespace Rulebound.Diary

variable [Json.Nesting]

/-- The fault of a value that has no fields. -/
def noFields (value : Json) : Fault :=
  ⟨.noField, some ("'" ++ value.kindName ++ "' object has no attribute 'get'"), ""⟩

/-- The fields of an entry. A value that counts as nothing has none. -/
def fieldsOf (value : Option Json) : Except Fault (Json.Fields) :=
  match value with
  | none => .ok []
  | some (.object fields) => .ok fields
  | some value => if value.isTruthy then .error (noFields value) else .ok []

def isOfType (type : String) (fields : Json.Fields) : Bool :=
  match Json.lookup? fields "type" with
  | some (.string name) => name == .plain type
  | _ => false

def payload? (fields : Json.Fields) : Option Json :=
  if isOfType "cycle" fields then
    match Json.lookup? fields "payload" with
    | some .null => none
    | payload => payload
  else none

def recordOf (value : Option Json) : Except Fault (Option Cycle.Record) := do
  match payload? (← fieldsOf value) with
  | none => .ok none
  | some payload => some <$> (Cycle.Record.decode payload).toExcept

structure Readings where
  records : List Cycle.Record
  fault? : Option Fault
deriving DecidableEq, Repr

def recordsIn : List (List Char) → Readings
  | [] => ⟨[], none⟩
  | line :: rest =>
      match Json.readAny line >>= recordOf with
      | .error fault => ⟨[], some fault⟩
      | .ok record =>
          let others := recordsIn rest
          { others with records := record.toList ++ others.records }

def headerIn : List (List Char) → Except Fault (Option Json)
  | [] => .ok none
  | line :: rest =>
      match Json.readAny line >>= fieldsOf with
      | .error fault => .error fault
      | .ok fields =>
          if isOfType "header" fields then .ok (some (.object fields)) else headerIn rest

def linesOf (bytes : List UInt8) : Except Fault (List (List Char)) :=
  match Text.decode? bytes with
  | some text => .ok (Text.lines text)
  | none => .error ⟨.unicodeDecode, some "the file is not UTF-8", ""⟩

def readRecords (bytes : List UInt8) : Readings :=
  match linesOf bytes with
  | .ok lines => recordsIn lines
  | .error fault => ⟨[], some fault⟩

def readHeader (bytes : List UInt8) : Except Fault (Option Json) := do
  headerIn (← linesOf bytes)

end Rulebound.Diary
