import Rulebound.Backend
import Rulebound.Cycle.Record

/-!
# Attempts

How far a turn gets: it sees, it asks the model, it reads an action from the answer, it asks the
rules, and it acts. The phases that a turn went through and the record of it follow from how far
it got.
-/

namespace Rulebound.Cycle

inductive Phase where
  | idle
  | observing
  | prompting
  | parsing
  | authorizing
  | dispatching
  | logging
deriving DecidableEq, Repr, Inhabited

def Phase.name : Phase → String
  | idle => "idle"
  | observing => "observing"
  | prompting => "prompting"
  | parsing => "parsing"
  | authorizing => "authorizing"
  | dispatching => "dispatching"
  | logging => "logging"

/-- How far a turn got, with what it had by then. -/
inductive Attempt where
  | unseen (fault : Fault)
  | unanswered (seen : Observation) (fault : Fault)
  | unreadable (seen : Observation) (reply : Reply) (fault : Fault)
  | unparsed (seen : Observation) (reply : Reply)
  | denied (seen : Observation) (reply : Reply) (action : Action) (reason : String)
  | dispatched (seen : Observation) (reply : Reply) (action : Action) (ok : Bool)
deriving Repr

namespace Attempt

def working : Attempt → List Phase
  | unseen _ => [.observing]
  | unanswered .. => [.observing, .prompting]
  | unreadable .. | unparsed .. => [.observing, .prompting, .parsing]
  | denied .. => [.observing, .prompting, .parsing, .authorizing]
  | dispatched .. => [.observing, .prompting, .parsing, .authorizing, .dispatching]

def fault? : Attempt → Option Fault
  | unseen fault | unanswered _ fault | unreadable _ _ fault => some fault
  | _ => none

def observation? : Attempt → Option Observation
  | unseen _ => none
  | unanswered seen _ | unreadable seen _ _ | unparsed seen _ | denied seen _ _ _
  | dispatched seen _ _ _ => some seen

def reply? : Attempt → Option Reply
  | unseen _ | unanswered .. => none
  | unreadable _ reply _ | unparsed _ reply | denied _ reply _ _ | dispatched _ reply _ _ =>
      some reply

def action? : Attempt → Option Action
  | denied _ _ action _ | dispatched _ _ action _ => some action
  | _ => none

def violation? : Attempt → Option String
  | denied _ _ _ reason => some reason
  | _ => none

def result : Attempt → Result
  | unseen fault | unanswered _ fault | unreadable _ _ fault => ⟨false, some fault.summary⟩
  | unparsed .. => ⟨false, some "Could not parse action"⟩
  | denied _ _ _ reason => ⟨false, some ("Blocked: " ++ reason)⟩
  | dispatched _ _ _ ok => ⟨ok, none⟩

/-- The reasoning of a record; an answer that is neither a text nor absent cannot be recorded. -/
def reasoning (attempt : Attempt) : Checked (Option String) :=
  match attempt.reply? with
  | none => .good none
  | some reply =>
      (Decode.optional Decode.text reply.toJson).under (.field "reasoning")

def record (attempt : Attempt) (tick : Int) (timestamp goal : String) : Except Fault Record :=
  (attempt.reasoning.map fun reasoning => {
    tick, timestamp, goal
    observation := attempt.observation?
    reasoning
    action := attempt.action?
    result := attempt.result
    violation := attempt.violation? }).toExcept

end Attempt

end Rulebound.Cycle
