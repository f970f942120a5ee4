import Rulebound.Body
import Rulebound.Diary.Entry
import Rulebound.Prompt

/-!
# Events of a run

What happens while an agent runs, in the order in which it happens: everything that the body, the
backend, the diary and the operator see of it.
-/

namespace Rulebound

inductive Event where
  /-- Something is noted. -/
  | log (line : Log.Line)
  /-- The backend was waited for; it became ready or did not. -/
  | ready (ok : Bool)
  /-- The body was connected to, or could not be. -/
  | connect (ok : Bool)
  /-- The body is asked what it sees. -/
  | observe
  /-- The backend is asked for an answer. -/
  | generate (prompt : Prompt)
  /-- A permitted action is handed over to be done. -/
  | dispatch (action : Action)
  /-- The body is asked to do something. -/
  | call (request : Call)
  /-- An entry is written to the diary; it was kept or lost. -/
  | write (entry : Diary.Entry) (kept : Bool)
  /-- The record of a turn is handed to whoever watches. -/
  | hand (record : Cycle.Record)
  /-- The delay before the next turn. -/
  | pause
  | disconnect
  /-- What the backend holds is given back. -/
  | close
deriving Repr

namespace Event

def notes (logs : List Log.Line) : List Event :=
  logs.map .log

def log? : Event → Option Log.Line
  | log line => some line
  | _ => none

def kept? : Event → Option Diary.Entry
  | write entry true => some entry
  | _ => none

def prompt? : Event → Option Prompt
  | generate prompt => some prompt
  | _ => none

def call? : Event → Option Call
  | call request => some request
  | _ => none

def record? : Event → Option Cycle.Record
  | hand record => some record
  | _ => none

def logs (events : List Event) : List Log.Line :=
  events.filterMap log?

def entries (events : List Event) : List Diary.Entry :=
  events.filterMap kept?

def prompts (events : List Event) : List Prompt :=
  events.filterMap prompt?

def calls (events : List Event) : List Call :=
  events.filterMap call?

def records (events : List Event) : List Cycle.Record :=
  events.filterMap record?

end Event

end Rulebound
