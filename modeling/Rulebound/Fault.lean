import Rulebound.Number.Binary64
import Rulebound.Text.Quoted

/-!
# Faults

What can go wrong in a part of the agent: a kind, and a message that may be absent. A record of a
fault shows its message, or the name of its kind where the message is empty.
-/

namespace Rulebound

inductive FaultKind where
  | runtime
  | value
  | key
  | type
  | overflow
  | recursion
  | noField
  | validation
  | jsonDecode
  | unicodeDecode
  | unicodeEncode
  | moduleMissing
  | os
  | fileMissing
  | fileExists
  | notDirectory
  | isDirectory
  | connection
  | timeout
  | http
  | address
  | backendUnavailable
  | bodyUnavailable
  /-- A kind that no part of the agent treats apart, known by its name alone. -/
  | other (name : String)
deriving DecidableEq, Repr, Inhabited

namespace FaultKind

def name : FaultKind → String
  | runtime => "RuntimeError"
  | value => "ValueError"
  | key => "KeyError"
  | type => "TypeError"
  | overflow => "OverflowError"
  | recursion => "RecursionError"
  | noField => "AttributeError"
  | validation => "ValidationError"
  | jsonDecode => "JSONDecodeError"
  | unicodeDecode => "UnicodeDecodeError"
  | unicodeEncode => "UnicodeEncodeError"
  | moduleMissing => "ModuleNotFoundError"
  | os => "OSError"
  | fileMissing => "FileNotFoundError"
  | fileExists => "FileExistsError"
  | notDirectory => "NotADirectoryError"
  | isDirectory => "IsADirectoryError"
  | connection => "ConnectionError"
  | timeout => "TimeoutError"
  | http => "HTTPError"
  | address => "InvalidURL"
  | backendUnavailable => "LLMUnavailableError"
  | bodyUnavailable => "ActuatorUnavailableError"
  | other name => name

def ofName? (text : String) : Option FaultKind :=
  [runtime, value, key, type, overflow, recursion, noField, validation, jsonDecode,
    unicodeDecode, unicodeEncode, moduleMissing, os, fileMissing, fileExists, notDirectory,
    isDirectory, connection, timeout, http, address, backendUnavailable,
    bodyUnavailable].find? (·.name == text)

def isSystem : FaultKind → Bool
  | os | fileMissing | fileExists | notDirectory | isDirectory | connection | timeout => true
  | _ => false

def isOfValue : FaultKind → Bool
  | value | validation | jsonDecode | unicodeDecode | unicodeEncode => true
  | _ => false

/-- Whether a kind says that the backend or the body never became ready. -/
def isUnavailable (kind : FaultKind) : Bool :=
  kind == backendUnavailable || kind == bodyUnavailable

end FaultKind

/-- A fault. Its trace is a description of where it arose, for the diary alone. -/
structure Fault where
  kind : FaultKind
  message? : Option String := none
  trace : String := ""
deriving DecidableEq, Repr, Inhabited

namespace Fault

/-- The message of a fault; an absent one is empty, and a missing key is shown in quotes. -/
def text (fault : Fault) : String :=
  match fault.message? with
  | none => ""
  | some message => if fault.kind = .key then Text.quoted message else message

def summary (fault : Fault) : String :=
  if fault.text = "" then fault.kind.name else fault.text

def ofNotFinite : Binary64.NotFinite → Fault
  | .nan => ⟨.value, some "cannot convert float NaN to integer", ""⟩
  | .infinite => ⟨.overflow, some "cannot convert float infinity to integer", ""⟩

def integerTooLarge : Fault :=
  ⟨.overflow, some "int too large to convert to float", ""⟩

def unshownInteger : Fault :=
  ⟨.value, some ("Exceeds the limit (" ++ intText longestInteger ++
    " digits) for integer string conversion; " ++
    "use sys.set_int_max_str_digits() to increase the limit"), ""⟩

def longInteger (size : Nat) : Fault :=
  ⟨.value, some ("Exceeds the limit (" ++ intText longestInteger ++
    " digits) for integer string conversion: value has " ++ intText size ++
    " digits; use sys.set_int_max_str_digits() to increase the limit"), ""⟩

end Fault

/-- An integer that has not too many digits to be shown. -/
def IsShort (n : Int) : Prop :=
  (digitsOf n.natAbs).length ≤ longestInteger

instance (n : Int) : Decidable (IsShort n) :=
  inferInstanceAs (Decidable (_ ≤ _))

def shownInt (n : Int) : Except Fault String :=
  if IsShort n then .ok (intText n) else .error .unshownInteger

end Rulebound
