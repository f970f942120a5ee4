import Rulebound.Proofs.Mediation
import Rulebound.Proofs.World.Operation
import Rulebound.World

/-!
# What fails changes nothing

An operation that does not succeed leaves the whole world as it is, whether it is refused or met by
a fault. The same holds of what an action makes of the world, and so of every turn that is recorded
as a failure, whatever made it fail.
-/

namespace Rulebound

/-! ## Operations -/

namespace World

variable {world : World}

theorem answer_state_of_failed {act : Act World Bool} {done : World → Prop}
    (h : act.AllOrNothing world done) (hfailed : (answer (act world)).result ≠ .ok (.bool true)) :
    (answer (act world)).state = world := by
  refine h.state_eq fun hok => hfailed ?_
  unfold answer Outcome.map
  rw [hok]
  rfl

/-- A call that has an answer either is answered with success or leaves the world as it is. -/
theorem perform_state_of_failed {call : Call} (hanswer : ∀ message, call ≠ .chat message)
    (hfailed : (world.perform call).result ≠ .ok (.bool true)) :
    (world.perform call).state = world := by
  cases call with
  | moveDirection direction =>
      exact answer_state_of_failed (moveDirection_spec direction world) hfailed
  | goTo target => exact answer_state_of_failed (goTo_spec target world) hfailed
  | mineBlock name => exact answer_state_of_failed (mineBlock_spec name world) hfailed
  | attackEntity name => exact answer_state_of_failed (attackEntity_spec name world) hfailed
  | craft name => exact answer_state_of_failed (craft_spec name world) hfailed
  | placeBlock name => exact answer_state_of_failed (placeBlock_spec name world) hfailed
  | eatFood => exact answer_state_of_failed (eatFood_spec world) hfailed
  | sleep => exact answer_state_of_failed (sleep_spec world) hfailed
  | chat message => exact absurd rfl (hanswer message)
  | lookAt target => exact answer_state_of_failed (lookAt_spec target world) hfailed

end World

/-! ## Actions -/

/-- What is said is told, and no answer to it counts. -/
theorem Plan.ofAction_ne_call_chat (action : Action) (message : String) :
    Plan.ofAction action ≠ .call (.chat message) := by
  unfold Plan.ofAction
  cases hplan : handlers.lookup action.verb with
  | none => exact nofun
  | some plan =>
      obtain ⟨before, after, hsplit, -⟩ := List.lookup_eq_some_iff.1 hplan
      have hmem : (action.verb, plan) ∈ handlers := by simp [hsplit]
      simp only [handlers, List.mem_cons, Prod.mk.injEq, List.not_mem_nil, or_false] at hmem
      rcases hmem with ⟨-, rfl⟩ | ⟨-, rfl⟩ | ⟨-, rfl⟩ | ⟨-, rfl⟩ | ⟨-, rfl⟩ | ⟨-, rfl⟩ | ⟨-, rfl⟩ |
        ⟨-, rfl⟩ | ⟨-, rfl⟩ | ⟨-, rfl⟩ | ⟨-, rfl⟩ | ⟨-, rfl⟩
      all_goals simp only [withDirection, withName, toPoint, toSay, toLook]
      all_goals repeat' split
      all_goals simp

namespace Dispatched

variable {obstacle? : Nat → Option Fault} {state : World × Nat} {action : Action} {call : Call}

theorem ofCall_state_of_failed {counts : Json → Bool} (hcounts : counts (.bool true) = true)
    (hanswer : ∀ message, call = .chat message → counts .null = true)
    (hfailed :
      (ofCall (World.body.obstructed obstacle?) state action call counts).ok = false) :
    (ofCall (World.body.obstructed obstacle?) state action call counts).state.1 = state.1 := by
  have hstate : (ofCall (World.body.obstructed obstacle?) state action call counts).state.1 =
      (state.1.perform call).state := by
    unfold ofCall
    cases hresult : (state.1.perform call).result <;>
      simp [Body.obstructed, Body.counted, World.body, hresult]
  rw [hstate]
  have hresult : ∀ value, (state.1.perform call).result = .ok value → counts value = false := by
    intro value hvalue
    simpa [ofCall, Body.obstructed, Body.counted, World.body, hvalue] using hfailed
  refine World.perform_state_of_failed (fun message hchat => ?_) fun htrue => ?_
  · subst hchat
    have hnull : counts .null = false := hresult .null rfl
    rw [hanswer message rfl] at hnull
    exact Bool.noConfusion hnull
  · have htrue := hresult _ htrue
    rw [hcounts] at htrue
    exact Bool.noConfusion htrue

theorem dispatch_state_of_failed
    (hfailed : (dispatch (World.body.obstructed obstacle?) state action).ok = false) :
    (dispatch (World.body.obstructed obstacle?) state action).state.1 = state.1 := by
  have hchat := Plan.ofAction_ne_call_chat action
  unfold dispatch at hfailed ⊢
  cases hplan : Plan.ofAction action with
  | unknown => rfl
  | refused why => rfl
  | idle => rfl
  | call request =>
      rw [hplan] at hfailed
      refine ofCall_state_of_failed rfl (fun message hrequest => ?_) hfailed
      exact absurd (hplan.trans (congrArg Plan.call hrequest)) (hchat message)
  | tell request =>
      rw [hplan] at hfailed
      exact ofCall_state_of_failed rfl (fun _ _ => rfl) hfailed
  | look offset =>
      rw [hplan] at hfailed
      exact ofCall_state_of_failed rfl (fun _ hrequest => nomatch hrequest) hfailed

end Dispatched

/-! ## Turns -/

namespace Cycle.Agent

variable {γ : Type} {agent : Agent (World × Nat) γ} {state : State (World × Nat) γ}
  {obstacle? : Nat → Option Fault}

/-- An attempt that comes to nothing leaves the world as it is. -/
theorem attempt_world_of_failed (hbody : agent.body = World.body.obstructed obstacle?)
    (hfailed : (agent.attempt state).attempt.result.success = false) :
    (agent.attempt state).world.1 = state.world.1 := by
  by_cases hsome : ∃ action, agent.Proposes state action
  · obtain ⟨action, hproposes⟩ := hsome
    obtain ⟨seen, reply, -, hattempt, hworld, -⟩ := hproposes.attempt
    cases hjudge : state.book.judge action with
    | denied reason =>
        obtain ⟨-, hsame, -⟩ := act_of_denied hjudge agent (agent.looked state) seen reply
        rw [hworld, hsame, looked_fst hbody]
    | permitted =>
        obtain ⟨hdispatched, hdone, -⟩ :=
          act_of_permitted hjudge agent (agent.looked state) seen reply
        rw [hattempt, hdispatched, hbody] at hfailed
        rw [hworld, hdone, hbody, Dispatched.dispatch_state_of_failed hfailed, looked_fst hbody]
  · obtain ⟨hworld, -⟩ := attempt_of_no_proposal fun action h => hsome ⟨action, h⟩
    rw [hworld, looked_fst hbody]

/-- Nothing that fails changes the world: no operation that is answered with a failure or ends in a
fault, and no turn whose record says that it failed. -/
theorem failure_changes_nothing [Json.Nesting] :
    (∀ (world : World) (call : Call),
      (world.perform call).result = .ok (.bool false) ∨
        (∃ fault, (world.perform call).result = .error fault) →
      (world.perform call).state = world) ∧
    ∀ (γ : Type) (agent : Agent (World × Nat) γ) (obstacle? : Nat → Option Fault)
      (state : State (World × Nat) γ) (record : Record),
      agent.body = World.body.obstructed obstacle? →
      agent.recordOf state = .ok record → record.result.success = false →
      (agent.turn state).state.world.1 = state.world.1 := by
  constructor
  · intro world call h
    refine World.perform_state_of_failed (fun message hchat => ?_) fun htrue => ?_
    · subst hchat
      rcases h with hfalse | ⟨fault, hfault⟩
      · exact nomatch hfalse
      · exact nomatch hfault
    · rcases h with hfalse | ⟨fault, hfault⟩
      · exact nomatch htrue.symm.trans hfalse
      · exact nomatch htrue.symm.trans hfault
  · intro γ agent obstacle? state record hbody hrecord hfailed
    obtain ⟨-, hresult, -⟩ := Attempt.record_eq_ok hrecord
    rw [hresult] at hfailed
    exact attempt_world_of_failed hbody hfailed

section Unseen

attribute [local instance] Json.Nesting.usual

theorem unseen_and_refused_change_nothing :
    let agent : Agent (World × Nat) Script :=
      { profile := {}, body := World.body.obstructed fun _ => some default
        backend := Script.backend, diary? := none, clock := fun _ => default }
    let start : State (World × Nat) Script :=
      { world := (World.starter, 0), backend := Script.usual, book := .ofTexts [] }
    (World.perform {} (.mineBlock "stone")).result = .ok (.bool false) ∧
      (World.perform {} (.mineBlock "stone")).state = {} ∧
      ∃ record, agent.recordOf start = .ok record ∧ record.result.success = false ∧
        (agent.turn start).state.world.1 = start.world.1 := by
  intro agent start
  have hrefused : (World.perform {} (.mineBlock "stone")).result = .ok (.bool false) := rfl
  have hbody : agent.body = World.body.obstructed fun _ => some default := rfl
  obtain ⟨record, hrecord⟩ : ∃ record, agent.recordOf start = .ok record := ⟨_, rfl⟩
  have hfailed : record.result.success = false := by
    obtain ⟨-, hresult, -⟩ := Attempt.record_eq_ok hrecord
    rw [hresult]
    rfl
  exact ⟨hrefused, failure_changes_nothing.1 {} (.mineBlock "stone") (.inl hrefused), record,
    hrecord, hfailed,
    failure_changes_nothing.2 Script agent _ start record hbody hrecord hfailed⟩

end Unseen

end Cycle.Agent

end Rulebound
