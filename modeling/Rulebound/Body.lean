import Rulebound.Json.Value
import Rulebound.Observation
import Rulebound.Outcome

/-!
# Bodies

What an agent acts with and sees with. A body has a state of its own; whatever it is asked, it may
answer or report a fault. A body may also be kept from seeing at some of the times when it is asked
what it sees.
-/

namespace Rulebound

inductive Call where
  | moveDirection (direction : String)
  | goTo (target : Position)
  | mineBlock (name : String)
  | attackEntity (name : String)
  | craft (name : String)
  | placeBlock (name : String)
  | eatFood
  | sleep
  | chat (message : String)
  | lookAt (target : Position)
deriving DecidableEq, Repr

/-- A body with states of a type. A call is answered with any value; it succeeded if that value
counts as something. -/
structure Body (σ : Type) where
  connect : σ → Outcome σ Unit
  disconnect : σ → σ × List Log.Line
  observe : σ → Outcome σ Observation
  position : σ → Except Fault Position
  perform : σ → Call → Outcome σ Json

namespace Body

variable {σ : Type}

def counted {α : Type} (count : Nat) (outcome : Outcome σ α) : Outcome (σ × Nat) α :=
  ⟨(outcome.state, count), outcome.result, outcome.logs⟩

/-- The body that reports a fault at the times, counted from one, at which something keeps it from
seeing. -/
def obstructed (body : Body σ) (obstacle? : Nat → Option Fault) : Body (σ × Nat) where
  connect state := counted state.2 (body.connect state.1)
  disconnect state :=
    let (inner, logs) := body.disconnect state.1
    ((inner, state.2), logs)
  observe state :=
    let count := state.2 + 1
    match obstacle? count with
    | some fault => ⟨(state.1, count), .error fault, []⟩
    | none => counted count (body.observe state.1)
  position state := body.position state.1
  perform state request := counted state.2 (body.perform state.1 request)

end Body

end Rulebound
