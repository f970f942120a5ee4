import Rulebound.Proofs.Enforcement
import Rulebound.Proofs.Mediation
import Rulebound.Proofs.World.Beings

/-!
# Players under a rule that spares them

A prohibition of attacks on players is weighed by the words of an action: what is not named a zombie
counts as a player. The world looks for a being of the type or of the name that is attacked. The two
agree on every player but one whose own name is that of a zombie.
-/

namespace Rulebound

def Entity.isShielded (entity : Entity) : Bool :=
  entity.type == "player" &&
    !entity.name.any fun name => Text.contains name "zombie" && !Text.contains name "player"

theorem Entity.isShielded_eq_false {entity : Entity} {name : String}
    (hgoes : entity.goesBy name = true) (hzombie : Text.contains name "zombie" = true)
    (hplayer : Text.contains name "player" = false) : entity.isShielded = false := by
  unfold goesBy at hgoes
  rw [Bool.or_eq_true, beq_iff_eq, beq_iff_eq] at hgoes
  rcases hgoes with htype | hname
  · have hne : entity.type ≠ "player" := by
      intro hsame
      rw [← htype, hsame] at hplayer
      exact absurd hplayer (by decide)
    simp [isShielded, hne]
  · simp [isShielded, hname, hzombie, hplayer]

namespace Cycle.Agent

variable {γ : Type} {agent : Agent (World × Nat) γ} {obstacle? : Nat → Option Fault}
  {text : String} {action? : Option String}

theorem not_hits_shielded {rule : Rule}
    (hrule : rule = .prohibition ⟨action?, some "players"⟩ text)
    (haction : action? = none ∨ action? = some "attack") {action : Action} {call : Call}
    (hsuits : call.Suits action) (hpermitted : ¬ rule.Forbids action) {entity : Entity}
    (hhits : call.Hits entity) : entity.isShielded = false := by
  obtain ⟨name, rfl, hgoes⟩ := hhits
  obtain ⟨hverb, hname⟩ := hsuits
  have hattack : action.verb = "attack" := by simpa [Call.verbs] using hverb
  have hsame : action? = none ∨ action? = some action.verb := by rw [hattack]; exact haction
  have hcovers : ¬ Scope.covers ⟨action?, some "players"⟩ action = true := fun hcovers =>
    hpermitted (hrule ▸ ⟨rfl, hcovers⟩)
  have hunbroken : Text.IsUnbroken "players" := by decide
  obtain ⟨-, hspared⟩ := Scope.not_covers_target hsame rfl (by decide) hunbroken
    (hname name rfl) hcovers
  obtain ⟨hzombie, hplayer⟩ := hspared rfl hattack
  exact Entity.isShielded_eq_false hgoes hzombie hplayer

theorem turn_shielded [Json.Nesting] (hbody : agent.body = World.body.obstructed obstacle?)
    (hrule : Rule.compile text = .prohibition ⟨action?, some "players"⟩ text)
    (haction : action? = none ∨ action? = some "attack") {state : State (World × Nat) γ}
    (hforce : Rule.compile text ∈ state.book.rules) :
    (agent.turn state).state.world.1.entities.filter Entity.isShielded =
      state.world.1.entities.filter Entity.isShielded := by
  rcases turn_unforbidden agent state with
    ⟨-, hlooked⟩ | ⟨action, call, hsuits, hpermitted, -, -, hworld⟩
  · rw [hlooked, looked_fst hbody]
  · have hperform : (agent.turn state).state.world.1 =
        (World.perform state.world.1 call).state := by
      rw [hworld, hbody, ← looked_fst hbody state]
      rfl
    rw [hperform]
    exact World.perform_bystanders (fun _ _ => rfl) fun entity hhits =>
      not_hits_shielded hrule haction hsuits (hpermitted _ hforce) hhits

theorem stateAt_shielded [Json.Nesting] (hbody : agent.body = World.body.obstructed obstacle?)
    (hrule : Rule.compile text = .prohibition ⟨action?, some "players"⟩ text)
    (haction : action? = none ∨ action? = some "attack") {edits : Nat → List RuleEdit}
    {start : State (World × Nat) γ} {done : Nat}
    (hforce : ∀ place < done,
      Rule.compile text ∈ (start.book.edited (editsBefore edits place)).rules) :
    (agent.stateAt edits start done).world.1.entities.filter Entity.isShielded =
      start.world.1.entities.filter Entity.isShielded := by
  induction done with
  | zero => rfl
  | succ done ih =>
      have hnow : Rule.compile text ∈ (agent.stateAt edits start done).book.rules := by
        rw [stateAt_book]
        exact hforce done (by omega)
      have hturn := turn_shielded hbody hrule haction hnow
      have hearlier := ih fun place hplace => hforce place (by omega)
      exact hturn.trans hearlier

/-- Under a rule against attacks on players, no course harms or removes a player that is not named
like a zombie. -/
theorem course_shielded [Json.Nesting] (hbody : agent.body = World.body.obstructed obstacle?)
    (hrule : Rule.compile text = .prohibition ⟨action?, some "players"⟩ text)
    (haction : action? = none ∨ action? = some "attack") (conditions : Conditions) (limit : Nat)
    (start : State (World × Nat) γ) (before : List Event)
    (hkept : agent.Keeps conditions limit start before (Rule.compile text)) :
    ∀ turn ∈ (agent.course conditions limit start before).turns,
      turn.state.world.1.entities.filter Entity.isShielded =
        start.world.1.entities.filter Entity.isShielded := by
  intro turn hturn
  obtain ⟨place, hplace⟩ := List.mem_iff_getElem?.1 hturn
  have hlt := (List.getElem?_eq_some_iff.1 hplace).1
  rw [course_turn_at hplace]
  -- the turn at a place leads to the state of the next place
  have hafter : (agent.stateAt conditions.edits start (place + 1)).world.1.entities.filter
      Entity.isShielded = start.world.1.entities.filter Entity.isShielded :=
    stateAt_shielded hbody hrule haction fun earlier hearlier => hkept earlier (by omega)
  exact hafter

section Spared

attribute [local instance] Json.Nesting.usual

theorem steve_spared_zombie_hit :
    let steve : Entity := ⟨"player", ⟨1, 64, 0⟩, some "Steve", 20⟩
    let start := scriptedStart { entities := [⟨"zombie", ⟨2, 64, 0⟩, none, 20⟩, steve] }
      ["ACTION: attack steve", "ACTION: attack zombie"] ["Cannot attack players"]
    (∀ turn ∈ (scripted.course {} 2 start []).turns,
      turn.state.world.1.entities.filter Entity.isShielded = [steve]) ∧
      (scripted.course {} 2 start []).state.world.1.entities =
        [⟨"zombie", ⟨2, 64, 0⟩, none, 10⟩, steve] := by
  intro steve start
  have hrule : Rule.compile "Cannot attack players" =
      .prohibition ⟨some "attack", some "players"⟩ "Cannot attack players" := by
    decide +kernel
  have hshielded : start.world.1.entities.filter Entity.isShielded = [steve] := by
    decide +kernel
  have hbody : scripted.body = World.body.obstructed fun _ => none := rfl
  constructor
  · rw [← hshielded]
    exact course_shielded hbody hrule (.inr rfl) {} 2 start [] (scripted_keeps (.head _) 2)
  · decide +kernel

/-- A player that is named a zombie is hit in spite of the rule. -/
theorem player_named_zombie_hit :
    let start := scriptedStart { entities := [⟨"player", ⟨1, 64, 0⟩, some "zombie", 20⟩] }
      ["ACTION: attack zombie"] ["Cannot attack players"]
    Rule.compile "Cannot attack players" =
        .prohibition ⟨some "attack", some "players"⟩ "Cannot attack players" ∧
      scripted.Keeps {} 1 start [] (Rule.compile "Cannot attack players") ∧
      ∃ turn ∈ (scripted.course {} 1 start []).turns,
        turn.state.world.1.entities = [⟨"player", ⟨1, 64, 0⟩, some "zombie", 10⟩] := by
  intro start
  have hturn : scripted.turn start ∈ (scripted.course {} 1 start []).turns :=
    List.mem_of_getElem? (course_first_turn scripted rfl 0 start)
  refine ⟨by decide +kernel, scripted_keeps (.head _) 1, scripted.turn start, hturn, ?_⟩
  decide +kernel

end Spared

end Cycle.Agent

end Rulebound
