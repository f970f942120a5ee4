import Rulebound.Proofs.Enforcement
import Rulebound.Proofs.Mediation
import Rulebound.Proofs.World.Operation

/-!
# Runs

What is done with a world, one operation after another. What every call keeps, and connecting too,
holds wherever a run leads.
-/

namespace Rulebound.World

variable {world : World}

/-! ## Operations -/

/-- What can be done with a world. -/
inductive Operation where
  | call (request : Call)
  | connect
  | disconnect

def Operation.apply (operation : Operation) (world : World) : World :=
  match operation with
  | call request => (world.perform request).state
  | connect => world.connect
  | disconnect => world.disconnect

def after (world : World) (operations : List Operation) : World :=
  operations.foldl (fun world operation => operation.apply world) world

def Operation.granted (world : World) : Operation → List Call
  | call request => if world.grants request then [request] else []
  | connect | disconnect => []

def granted : World → List Operation → List Call
  | _, [] => []
  | world, operation :: rest => operation.granted world ++ (operation.apply world).granted rest

/-- An operation does what its call is to do, or it changes at most whether the agent is
connected. -/
theorem Operation.apply_cases (operation : Operation) (world : World) :
    (∃ request, operation = .call request ∧ Does world request (operation.apply world)) ∨
    ∃ connected, operation.apply world = { world with connected } := by
  cases operation with
  | call request =>
      rcases perform_cases world request with ⟨hdoes, -⟩ | ⟨-, hsame⟩
      · exact .inl ⟨request, rfl, hdoes⟩
      · exact .inr ⟨world.connected, hsame⟩
  | connect => exact .inr ⟨true, rfl⟩
  | disconnect => exact .inr ⟨false, rfl⟩

/-! ## What lasts -/

/-- A property of worlds that no call and no connecting takes away. -/
structure IsLasting (holds : World → Prop) : Prop where
  does : ∀ {world call after}, Does world call after → holds world → holds after
  connected : ∀ {world} connected, holds world → holds { world with connected }

theorem IsLasting.apply {holds : World → Prop} (hlasting : IsLasting holds) (h : holds world)
    (operation : Operation) : holds (operation.apply world) := by
  rcases operation.apply_cases world with ⟨request, -, hdoes⟩ | ⟨connected, hsame⟩
  · exact hlasting.does hdoes h
  · rw [hsame]
    exact hlasting.connected connected h

theorem IsLasting.after {holds : World → Prop} (hlasting : IsLasting holds) (h : holds world)
    (operations : List Operation) : holds (world.after operations) := by
  induction operations generalizing world with
  | nil => exact h
  | cons operation rest ih => exact ih (hlasting.apply h operation)

end Rulebound.World

namespace Rulebound.Cycle.Agent

/-!
## Turns in a block world

A turn of an agent leaves its world as it is or does to it what one call does. So what lasts through
every call holds after every turn of a course, whatever the backend answers and however the rules
are changed.
-/

variable {γ : Type} {agent : Agent (World × Nat) γ} {obstacle? : Nat → Option Fault}
  {holds : World → Prop}

theorem turn_world [Json.Nesting] (hbody : agent.body = World.body.obstructed obstacle?)
    (state : State (World × Nat) γ) :
    (agent.turn state).state.world.1 = state.world.1 ∨
      ∃ call, World.Does state.world.1 call (agent.turn state).state.world.1 := by
  rcases turn_unforbidden agent state with ⟨-, hlooked⟩ | ⟨action, call, -, -, -, -, hworld⟩
  · exact .inl (by rw [hlooked, looked_fst hbody])
  · have hperform : (agent.turn state).state.world.1 = (state.world.1.perform call).state := by
      rw [hworld, hbody, ← looked_fst hbody state]
      rfl
    rw [hperform]
    rcases World.perform_cases state.world.1 call with ⟨hdoes, -⟩ | ⟨-, hsame⟩
    · exact .inr ⟨call, hdoes⟩
    · exact .inl hsame

theorem turn_lasting [Json.Nesting] (hlasting : World.IsLasting holds)
    (hbody : agent.body = World.body.obstructed obstacle?) {state : State (World × Nat) γ}
    (h : holds state.world.1) : holds (agent.turn state).state.world.1 := by
  rcases turn_world hbody state with hsame | ⟨call, hdoes⟩
  · rw [hsame]
    exact h
  · exact hlasting.does hdoes h

theorem stateAt_lasting [Json.Nesting] (hlasting : World.IsLasting holds)
    (hbody : agent.body = World.body.obstructed obstacle?) (edits : Nat → List RuleEdit)
    {start : State (World × Nat) γ} (h : holds start.world.1) (done : Nat) :
    holds (agent.stateAt edits start done).world.1 := by
  induction done with
  | zero => exact h
  | succ done ih => exact turn_lasting hlasting hbody ih

/-- What lasts holds after every turn of a course. -/
theorem course_lasting [Json.Nesting] (hlasting : World.IsLasting holds)
    (hbody : agent.body = World.body.obstructed obstacle?) (conditions : Conditions) (limit : Nat)
    {start : State (World × Nat) γ} (h : holds start.world.1) (before : List Event) :
    ∀ turn ∈ (agent.course conditions limit start before).turns, holds turn.state.world.1 := by
  intro turn hturn
  obtain ⟨place, hplace⟩ := List.mem_iff_getElem?.1 hturn
  rw [course_turn_at hplace]
  exact turn_lasting hlasting hbody (stateAt_lasting hlasting hbody conditions.edits h place)

end Rulebound.Cycle.Agent
