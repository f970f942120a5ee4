import Rulebound.Action
import Rulebound.Body
import Rulebound.Number.Reading

/-!
# Dispatch

How an action becomes a call of a body. Only the shape of the action is checked here; whether it
makes sense where the agent is, the body decides. An action makes at most one call.
-/

namespace Rulebound

inductive Plan where
  /-- Nobody knows the verb. -/
  | unknown
  /-- The action has not the shape that its verb needs. -/
  | refused (why : String)
  /-- There is nothing to do but to wait. -/
  | idle
  /-- A call whose answer says whether the action succeeded. -/
  | call (request : Call)
  /-- A call that succeeds unless it reports a fault. -/
  | tell (request : Call)
  /-- Looking at a point at an offset from where the body is. -/
  | look (offset : Position)
deriving DecidableEq, Repr

namespace Plan

def lookOffset? (direction : String) : Option Position :=
  [("north", (⟨0, 0, -10⟩ : Position)), ("south", ⟨0, 0, 10⟩), ("east", ⟨10, 0, 0⟩),
    ("west", ⟨-10, 0, 0⟩), ("up", ⟨0, 10, 0⟩), ("down", ⟨0, -10, 0⟩)].lookup direction

def withDirection (action : Action) (why : String) (plan : String → Plan) : Plan :=
  match action.words with
  | [] => refused why
  | word :: _ => plan (Text.lower word)

def withName (action : Action) (why : String) (named : String → Call) : Plan :=
  match action.joinedName? with
  | none => refused why
  | some name => call (named name)

def point? : List String → Option Position
  | [x, y, z] => do
      let point : Position := ⟨← Binary64.read? x, ← Binary64.read? y, ← Binary64.read? z⟩
      if point.x.isFinite && point.y.isFinite && point.z.isFinite then some point else none
  | _ => none

def toPoint (action : Action) : Plan :=
  if action.words.length ≠ 3 then refused "Goto requires x, y, z coordinates"
  else
    match point? action.words with
    | some point => call (.goTo point)
    | none => refused ("Invalid coordinates: " ++ action.raw)

def toSay (action : Action) : Plan :=
  let message := String.ofList (Text.trim action.raw.toList)
  if message = "" then refused "Chat requires a message" else tell (.chat message)

def toLook (direction : String) : Plan :=
  match lookOffset? direction with
  | some offset => look offset
  | none => refused ("Unknown direction: " ++ direction)

def handlers : List (String × (Action → Plan)) := [
  ("move", fun action =>
    withDirection action "Move requires a direction" fun word => call (.moveDirection word)),
  ("goto", toPoint),
  ("mine", fun action => withName action "Mine requires a block type" .mineBlock),
  ("collect", fun action => withName action "Collect requires an item name" .mineBlock),
  ("attack", fun action => withName action "Attack requires an entity type" .attackEntity),
  ("craft", fun action => withName action "Craft requires an item name" .craft),
  ("place", fun action => withName action "Place requires a block name" .placeBlock),
  ("eat", fun _ => call .eatFood),
  ("sleep", fun _ => call .sleep),
  ("chat", toSay),
  ("wait", fun _ => idle),
  ("look", fun action => withDirection action "Look requires a direction" toLook)]

def verbs : List String :=
  handlers.map (·.1)

def ofAction (action : Action) : Plan :=
  match handlers.lookup action.verb with
  | some plan => plan action
  | none => unknown

end Plan

/-- What came of an action: the state of the body, whether the action succeeded, the call that was
made, and what was noted. -/
structure Dispatched (σ : Type) where
  state : σ
  ok : Bool
  call? : Option Call
  logs : List Log.Line

namespace Dispatched

variable {σ : Type}

def without (state : σ) (ok : Bool) (logs : List Log.Line) : Dispatched σ :=
  ⟨state, ok, none, logs⟩

def faultLog (action : Action) : Log.Line :=
  .error ("Action " ++ action.verb ++ " failed")

def ofCall (body : Body σ) (state : σ) (action : Action) (call : Call) (counts : Json → Bool) :
    Dispatched σ :=
  let outcome := body.perform state call
  match outcome.result with
  | .ok answer => ⟨outcome.state, counts answer, some call, outcome.logs⟩
  | .error _ => ⟨outcome.state, false, some call, outcome.logs ++ [faultLog action]⟩

end Dispatched

def Plan.run {σ : Type} (body : Body σ) (state : σ) (action : Action) : Plan → Dispatched σ
  | unknown => .without state false [.warning ("Unknown action type: " ++ action.verb)]
  | refused why => .without state false [.info why]
  | idle => .without state true [.info "Waiting..."]
  | call request => .ofCall body state action request Json.isTruthy
  | tell request => .ofCall body state action request fun _ => true
  | look offset =>
      match body.position state with
      | .ok position => .ofCall body state action (.lookAt (position + offset)) Json.isTruthy
      | .error _ => .without state false [Dispatched.faultLog action]

def dispatch {σ : Type} (body : Body σ) (state : σ) (action : Action) : Dispatched σ :=
  (Plan.ofAction action).run body state action

end Rulebound
