import Rulebound.Action
import Rulebound.Observation

/-!
# Records of turns

What the diary keeps of one turn of the agent: what it saw, what the model said, the action that
was read from it, and what came of it.
-/

namespace Rulebound.Cycle

structure Result where
  success : Bool
  message : Option String := none
deriving DecidableEq, Repr, Inhabited

structure Record where
  tick : Int
  timestamp : String
  goal : String
  observation : Option Observation
  reasoning : Option String
  action : Option Action
  result : Result
  violation : Option String
deriving DecidableEq, Repr, Inhabited

namespace Result

def toJson (result : Result) : Json :=
  .object [("success", .bool result.success), ("message", .ofText? result.message)]

def decode : Json → Checked Result :=
  Decode.object fun fields =>
    Decode.only ["success", "message"] fields
      (Result.mk <$> Decode.required fields "success" Decode.truth
        <*> Decode.withDefault fields "message" (Decode.optional Decode.text) none)

end Result

namespace Record

def toJson (record : Record) : Json :=
  .object [
    ("tick", .int record.tick),
    ("timestamp", .string record.timestamp),
    ("goal", .string record.goal),
    ("observation", (record.observation.map Observation.toJson).getD .null),
    ("reasoning", .ofText? record.reasoning),
    ("action", (record.action.map Action.toJson).getD .null),
    ("result", record.result.toJson),
    ("rule_violation", .ofText? record.violation)]

def decode : Json → Checked Record :=
  Decode.object fun fields =>
    Decode.only ["tick", "timestamp", "goal", "observation", "reasoning", "action", "result",
        "rule_violation"] fields
      (Record.mk <$> Decode.required fields "tick" Decode.integer
        <*> Decode.required fields "timestamp" Decode.text
        <*> Decode.required fields "goal" Decode.text
        <*> Decode.withDefault fields "observation" (Decode.optional Observation.decode) none
        <*> Decode.withDefault fields "reasoning" (Decode.optional Decode.text) none
        <*> Decode.withDefault fields "action" (Decode.optional Action.decode) none
        <*> Decode.required fields "result" Result.decode
        <*> Decode.withDefault fields "rule_violation" (Decode.optional Decode.text) none)

end Record

end Rulebound.Cycle
