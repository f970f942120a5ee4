import Rulebound.Action
import Rulebound.Body
import Rulebound.Fault
import Rulebound.Json.Printer
import Rulebound.Log
import Rulebound.Number.Binary64
import Rulebound.Prompt

/-!
# Backends

What runs the model. A backend has a state of its own; it can be made ready, and it answers
prompts.
-/

namespace Rulebound

/-!
## Replies

What a backend answers: a text as a rule, nothing, or some other value that a server sent in the
place of a text.
-/

inductive Reply where
  | text (value : String)
  | nothing
  | other (value : Json)
deriving Repr, Inhabited

namespace Reply

def toJson : Reply → Json
  | text value => .string value
  | nothing => .null
  | other value => value

def ofJson : Json → Reply
  | .string value => text value.shown
  | .null => nothing
  | value => other value

/-- The reply in a message, cut after a hundred characters. -/
def excerpt (reply : Reply) : String :=
  String.ofList (reply.toJson.display.toList.take 100)

/-- The text in which an action is looked for. A value that counts as nothing is an empty text, and
any other value that is no text cannot be read. -/
def readable : Reply → Except Fault String
  | text value => .ok value
  | nothing => .ok ""
  | other value =>
      if value.isTruthy then
        .error ⟨.type,
          some ("expected string or bytes-like object, got '" ++ value.kindName ++ "'"), ""⟩
      else .ok ""

def action? (reply : Reply) : Except Fault (Option Action) :=
  reply.readable.map Action.read?

def unreadLog (reply : Reply) : Log.Line :=
  .info ("Could not parse action from response: " ++ reply.excerpt)

def readingLogs (reply : Reply) : List Log.Line :=
  match reply.action? with
  | .ok none => [reply.unreadLog]
  | _ => []

end Reply

/-!
## Backends

What runs the model. A backend has a state of its own; it can be made ready, and it answers
prompts.
-/

structure Backend (γ : Type) where
  /-- Waiting until prompts can be answered. -/
  ready : γ → Outcome γ Unit
  generate : γ → Prompt → Outcome γ Reply
  /-- Whether the backend holds something that is to be given back when it is no longer used. -/
  closes : Bool := false
  /-- What keeps the backend from being made at all. -/
  obstacle? : Option Fault := none

/-- A backend that whoever starts a run may give it. -/
structure GivenBackend (γ : Type) where
  backend : Backend γ
  /-- Whether it counts as something where it is tested; objects do unless they say otherwise. -/
  isTrue : Bool := true

/-- Where the backend of a run comes from: it is given, or made for the run. -/
structure Supply (γ : Type) where
  given? : Option (GivenBackend γ) := none
  made : Backend γ

namespace Supply

variable {γ : Type}

/-- Whether the backend is made: nothing is given, or nothing that counts. -/
def isMade (supply : Supply γ) : Bool :=
  match supply.given? with
  | some given => !given.isTrue
  | none => true

/-- The backend of the run: the given one, or else the one that is made. -/
def used (supply : Supply γ) : Backend γ :=
  match supply.given? with
  | some given => if given.isTrue then given.backend else supply.made
  | none => supply.made

def obstacle? (supply : Supply γ) : Option Fault :=
  if supply.isMade then supply.made.obstacle? else none

/-- Whether the backend is given back when the run ends: nothing was given. -/
def isReturned (supply : Supply γ) : Bool :=
  supply.given?.isNone

end Supply

/-!
## Options of models

Which model answers, and how it is to choose its words.
-/

structure ModelOptions where
  model : String
  temperature : Binary64 := Binary64.ofRatio 7 10
  topP : Binary64 := Binary64.ofRatio 9 10
  maxTokens : Int := 100
deriving DecidableEq, Repr, Inhabited

/-!
## Scripted backends

A backend that answers from a script, starting over at its end. Every prompt is kept, also one
that is answered by a fault.
-/

/-- A script, and the prompts that were answered from it so far. -/
structure Script where
  answers : List (Except Fault Reply)
  prompts : List Prompt := []

namespace Script

def ofTexts (texts : List String) : Script where
  answers := texts.map fun text => .ok (.text text)

/-- The answer to a prompt before which there were as many as `count`. -/
def answerAt (answers : List (Except Fault Reply)) (count : Nat) : Except Fault Reply :=
  (answers[count % answers.length]?).getD (.ok (.text ""))

def generate (script : Script) (prompt : Prompt) : Outcome Script Reply where
  state := { script with prompts := script.prompts ++ [prompt] }
  result := answerAt script.answers script.prompts.length

/-- The backend that answers from a script. It is always ready. -/
def backend : Backend Script where
  ready script := ⟨script, .ok (), []⟩
  generate := generate

def firstPickaxe : List String := [
  "THINKING: I have no tools yet, so wood comes first.\nACTION: mine oak_log",
  "THINKING: More logs mean more planks.\nACTION: mine oak_log",
  "THINKING: One more log gives me enough planks.\nACTION: mine oak_log",
  "THINKING: Logs become planks.\nACTION: craft oak_planks",
  "THINKING: I need more planks for a table and sticks.\nACTION: craft oak_planks",
  "THINKING: The pickaxe needs planks too.\nACTION: craft oak_planks",
  "THINKING: A crafting table unlocks tools.\nACTION: craft crafting_table",
  "THINKING: The table has to be placed before I can use it.\nACTION: place crafting_table",
  "THINKING: Sticks are needed for the pickaxe.\nACTION: craft stick",
  "THINKING: Now I can make a pickaxe.\nACTION: craft wooden_pickaxe",
  "THINKING: Let the others know how it is going.\nACTION: chat I just made my first pickaxe!",
  "THINKING: Nothing urgent right now.\nACTION: wait"]

def usual : Script :=
  ofTexts firstPickaxe

end Script

end Rulebound
