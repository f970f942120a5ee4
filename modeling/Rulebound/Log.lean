import Rulebound.Path

/-!
# Log messages

What the agent tells its operator while it runs.
-/

namespace Rulebound.Log

/-- How important a message is. No level at all is below every other one. -/
inductive Level where
  | notSet
  | debug
  | info
  | warning
  | error
  | critical
deriving DecidableEq, Repr, Inhabited

namespace Level

def rank : Level → Nat
  | notSet => 0
  | debug => 10
  | info => 20
  | warning => 30
  | error => 40
  | critical => 50

def name : Level → String
  | notSet => "NOTSET"
  | debug => "DEBUG"
  | info => "INFO"
  | warning => "WARNING"
  | error => "ERROR"
  | critical => "CRITICAL"

/-- The names of levels; two levels have a second one. -/
def names : List (String × Level) :=
  [notSet, debug, info, warning, error, critical].map (fun level => (level.name, level)) ++
    [("WARN", warning), ("FATAL", critical)]

def ofName? (text : String) : Option Level :=
  names.lookup text

end Level

structure Line where
  level : Level
  text : String
deriving DecidableEq, Repr

def Line.debug (text : String) : Line := ⟨.debug, text⟩
def Line.info (text : String) : Line := ⟨.info, text⟩
def Line.warning (text : String) : Line := ⟨.warning, text⟩
def Line.error (text : String) : Line := ⟨.error, text⟩

/-!
## Outlets for messages

Where messages go: those of enough importance to the console, and all of them to a file, if one is
kept. Messages of the web client below a warning go nowhere, and neither does a message of no
level.
-/

structure Message where
  source : String
  level : Level
  text : String
deriving DecidableEq, Repr

def Message.line (message : Message) : String :=
  message.source ++ " - " ++ message.level.name ++ " - " ++ message.text

def quietSource : String := "httpx"

def quietLevel : Level := .warning

/-- Whether a source is another one or a part of it; the parts of a name stand between points. -/
def isPartOf (whole source : String) : Bool :=
  source == whole || Text.startsWith (whole.toList ++ ['.']) source.toList

structure Outlets where
  /-- The least level that is shown on the console. -/
  shown : Level := .info
  /-- The file to which everything is written. -/
  file? : Option Path := none
deriving DecidableEq, Repr

namespace Outlets

def least (outlets : Outlets) : Level :=
  if outlets.file?.isSome && outlets.shown != .notSet then .debug else outlets.shown

def reaches (message : Message) (level : Level) : Bool :=
  level.rank ≤ message.level.rank

def takes (outlets : Outlets) (message : Message) : Bool :=
  message.level != .notSet &&
    reaches message (if isPartOf quietSource message.source then quietLevel else outlets.least)

def shows (outlets : Outlets) (message : Message) : Bool :=
  outlets.takes message && reaches message outlets.shown

def fileFor? (outlets : Outlets) (message : Message) : Option Path :=
  if outlets.takes message then outlets.file? else none

end Outlets

end Rulebound.Log
