import Rulebound.Fault
import Rulebound.Log

/-!
# Outcomes and acts

What a part of the agent answers, and how it comes to its answer. An act changes a state step by
step and notes what it does. A fault ends an act; it undoes nothing that was done before it.
-/

namespace Rulebound

/-- What a part of the agent answers: its new state, a value or a fault, and what it notes. -/
structure Outcome (σ α : Type) where
  state : σ
  result : Except Fault α
  logs : List Log.Line := []

def Outcome.map {σ α β : Type} (f : α → β) (outcome : Outcome σ α) : Outcome σ β :=
  ⟨outcome.state, outcome.result.map f, outcome.logs⟩

def Act (σ α : Type) : Type := σ → Outcome σ α

namespace Act

variable {σ α β : Type}

def andThen (first : Act σ α) (next : α → Act σ β) : Act σ β := fun state =>
  let outcome := first state
  match outcome.result with
  | .error fault => ⟨outcome.state, .error fault, outcome.logs⟩
  | .ok value =>
      let rest := next value outcome.state
      { rest with logs := outcome.logs ++ rest.logs }

instance : Monad (Act σ) where
  pure value := fun state => ⟨state, .ok value, []⟩
  bind := andThen

def look : Act σ σ := fun state => ⟨state, .ok state, []⟩

def find (answer : σ → Except Fault α) : Act σ α := fun state => ⟨state, answer state, []⟩

def change (f : σ → σ) : Act σ Unit := fun state => ⟨f state, .ok (), []⟩

def note (text : String) : Act σ Unit := fun state => ⟨state, .ok (), [.info text]⟩

def refuse (why : String) : Act σ Bool := do
  note why
  return false

def succeed (what : String) : Act σ Bool := do
  note what
  return true

end Act

end Rulebound
