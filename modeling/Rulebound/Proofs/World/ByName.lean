import Rulebound.Proofs.Dispatch
import Rulebound.Proofs.Effect
import Rulebound.Proofs.Text.Lower
import Rulebound.Proofs.World.Attack
import Rulebound.World

/-!
# Attacks by name

The name that an action makes of its words is in lower case, and beings are told apart by how their
names are written. So an attack on a name hits the beings that go by its lower case, and a being
whose own name has capitals is hit by it only if its type is named so.
-/

namespace Rulebound

/-- The call of an attack, whatever the words. -/
theorem Plan.ofAction_attack {action : Action} {name : String} (hverb : action.verb = "attack")
    (hname : action.joinedName? = some name) :
    Plan.ofAction action = .call (.attackEntity name) := by
  have hplan : Plan.handlers.lookup "attack" = some fun action =>
      Plan.withName action "Attack requires an entity type" .attackEntity := rfl
  unfold Plan.ofAction
  rw [hverb, hplan]
  simp only [Plan.withName, hname]

namespace World

variable {world : World} {name : String}

/-! ## What comes of a call -/

/-- A call of an action succeeds exactly if the world grants it. -/
theorem ofCall_ok (world : World) (action : Action) (call : Call) :
    (Dispatched.ofCall body world action call Json.isTruthy).ok = world.grants call := by
  unfold Dispatched.ofCall grants
  dsimp only [body]
  cases (world.perform call).result <;> rfl

theorem grants_iff {call : Call} {outcome : Outcome World Bool}
    (hcall : world.perform call = answer outcome) :
    world.grants call = true ↔ outcome.result = .ok true := by
  unfold grants
  rw [hcall]
  unfold answer Outcome.map
  cases outcome.result with
  | error fault => exact ⟨nofun, nofun⟩
  | ok done => simp [Except.map, Json.isTruthy]

/-! ## Attacks -/

theorem grants_attackEntity : world.grants (.attackEntity name) = true ↔
    world.CanMeasureBeings name ∧ world.HasNearBeing name := by
  have hperform : world.perform (.attackEntity name) = answer (attackEntity name world) := rfl
  rw [grants_iff hperform, ← answer_result, ← hperform, attackEntity_result, exists_target]

theorem Does.wasHit {after : World} (h : Does world (.attackEntity name) after) :
    ∃ earlier hit later, WasHit world after name earlier hit later := by
  cases h with
  | hit htarget =>
      obtain ⟨-, earlier, hit, later, hsplit, rfl, hnearest⟩ := target?_eq_some htarget
      refine ⟨earlier, hit, later, hsplit, hnearest, ?_, fun health rest hhealth hrest =>
        struck_health hhealth hrest⟩
      rw [advance_entities, hsplit]
      exact strike_nearest hnearest

/-- Where all beings that go by a name can be measured and none is near, that is what is noted. -/
theorem attackEntity_none_near (hmeasure : world.CanMeasureBeings name)
    (hnone : ¬ world.HasNearBeing name) :
    (world.perform (.attackEntity name)).result = .ok (.bool false) ∧
      (world.perform (.attackEntity name)).logs = [.info ("No " ++ name ++ " found nearby")] := by
  obtain ⟨found, hfound⟩ : ∃ found, world.target? name = .ok found :=
    ⟨_, (targetAux_eq_ok 0 none).2 ⟨hmeasure, rfl⟩⟩
  cases found with
  | some place => exact absurd (exists_target.1 ⟨place, hfound⟩).2 hnone
  | none =>
      have hact : attackEntity name world =
          (Act.refuse ("No " ++ name ++ " found nearby") : Act World Bool) world := by
        unfold attackEntity
        simp only [Act.bind_eq, Act.andThen, Act.find, hfound, List.nil_append]
      have hperform : world.perform (.attackEntity name) = answer (attackEntity name world) := rfl
      rw [hperform, hact]
      exact ⟨rfl, rfl⟩

/-- What comes of an attack on the beings that go by a name: it succeeds exactly if all of them can
be measured and one is within reach. Then the first of the nearest is hit, and otherwise nothing
happens. -/
structure Attacked (world : World) (name : String) (done : Dispatched World) : Prop where
  asked : done.call? = some (.attackEntity name)
  ok_iff : done.ok = true ↔ world.CanMeasureBeings name ∧ world.HasNearBeing name
  was_hit : done.ok = true → ∃ earlier hit later, WasHit world done.state name earlier hit later
  was_missed : done.ok = false → done.state = world
  noted : world.CanMeasureBeings name → ¬ world.HasNearBeing name →
    done.logs = [.info ("No " ++ name ++ " found nearby")]

/-- An action that attacks asks for the beings that go by the name that its words make. -/
theorem attacked {action : Action} (hverb : action.verb = "attack")
    (hname : action.joinedName? = some name) (world : World) :
    Attacked world name (dispatch body world action) := by
  have hdispatch : dispatch body world action =
      .ofCall body world action (.attackEntity name) Json.isTruthy := by
    rw [dispatch, Plan.ofAction_attack hverb hname]
    rfl
  have hbody : body.perform world (.attackEntity name) = world.perform (.attackEntity name) := rfl
  obtain ⟨hcall, hstate⟩ :=
    Dispatched.ofCall_spec body world action (.attackEntity name) Json.isTruthy
  rw [hbody] at hstate
  rw [hdispatch]
  refine ⟨hcall, ?_, fun hok => ?_, fun hnot => ?_, fun hmeasure hnone => ?_⟩
  · rw [ofCall_ok, grants_attackEntity]
  · rw [ofCall_ok] at hok
    rw [hstate]
    exact (Does.of_grants hok).wasHit
  · rw [ofCall_ok] at hnot
    rw [hstate]
    rcases perform_cases world (.attackEntity name) with
      ⟨-, hgranted | ⟨message, hchat⟩⟩ | ⟨-, hsame⟩
    · exact absurd hgranted (by rw [hnot]; exact Bool.false_ne_true)
    · exact nomatch hchat
    · exact hsame
  · obtain ⟨hresult, hlogs⟩ := attackEntity_none_near hmeasure hnone
    unfold Dispatched.ofCall
    simp only [hbody, hresult, hlogs]

/-- A name with a capital is no name in lower case, so only the type of a being can be named so. -/
theorem type_eq_of_goesBy_lower {entity : Entity} (hname : entity.name = some name)
    (hcapital : ∃ c ∈ name.toList, c.isUpper = true)
    (hgoes : entity.goesBy (Text.lower name) = true) : entity.type = Text.lower name := by
  unfold Entity.goesBy at hgoes
  rw [hname, Bool.or_eq_true, beq_iff_eq, beq_iff_eq, Option.some.injEq] at hgoes
  refine hgoes.resolve_right fun hlower => ?_
  obtain ⟨c, hmem, hupper⟩ := hcapital
  rw [hlower] at hmem
  exact Bool.noConfusion (hupper.symm.trans (Text.isUpper_of_mem_lower hmem))

/-- A line that attacks a name of one word asks for the beings that go by its lower case. If that is
how the name is written, a being of that name within reach can be attacked by it. A being whose name
has a capital is among those asked for only by its type. -/
theorem attacked_by_name (world : World) {name : String} (hword : Text.IsSolid name.toList) :
    ∃ action, Action.read? ("ACTION: attack " ++ name) = some action ∧
      Attacked world (Text.lower name) (dispatch body world action) ∧
      (Text.lower name = name → world.CanMeasureBeings name →
        ∀ entity ∈ world.entities, entity.name = some name →
          ∀ gap, entity.position.distanceFrom world.position = .ok gap →
            gap.le attackRadius = true → (dispatch body world action).ok = true) ∧
      ((∃ c ∈ name.toList, c.isUpper = true) → ∀ entity : Entity, entity.name = some name →
        entity.goesBy (Text.lower name) = true → entity.type = Text.lower name) := by
  have hverb : Action.IsVerb "attack" := by decide
  have hline : "ACTION: " ++ "attack" ++ " " = "ACTION: attack " := by decide
  have hread := Action.read?_word hverb hword
  rw [hline] at hread
  have hjoined : (⟨"attack", some [name], name⟩ : Action).joinedName? = some (Text.lower name) := by
    simp [Action.joinedName?, Action.words, Text.join, Text.joinChars]
  have hattacked := attacked rfl hjoined world
  refine ⟨_, hread, hattacked, fun hlower hmeasure entity hmem hname gap hgap hreach => ?_,
    fun hcapital entity hname hgoes => type_eq_of_goesBy_lower hname hcapital hgoes⟩
  have hgoes : entity.goesBy name = true := by simp [Entity.goesBy, hname]
  rw [hattacked.ok_iff, hlower]
  exact ⟨hmeasure, entity, hmem, hgoes, gap, hgap, hreach⟩

theorem lower_name_attacked :
    Text.IsSolid "steve".toList ∧ ∃ action, Action.read? "ACTION: attack steve" = some action ∧
      (dispatch body { entities := [⟨"player", ⟨1, 64, 0⟩, some "steve", 20⟩] } action).ok =
        true := by
  let steve : Entity := ⟨"player", ⟨1, 64, 0⟩, some "steve", 20⟩
  let world : World := { entities := [steve] }
  have hword : Text.IsSolid "steve".toList := by decide +kernel
  have hgap : steve.position.distanceFrom world.position =
      .ok (world.position.distance ⟨1, 64, 0⟩) := by decide +kernel
  obtain ⟨action, hread, -, hok, -⟩ := attacked_by_name world hword
  have hline : "ACTION: attack " ++ "steve" = "ACTION: attack steve" := by decide +kernel
  rw [hline] at hread
  exact ⟨hword, action, hread, hok (by decide +kernel) (by decide +kernel) steve
    List.mem_cons_self rfl _ hgap (by decide +kernel)⟩

/-- The named being of the starting world is near, and an attack on its name does not find it. -/
theorem capital_name_not_found :
    ¬ ∀ (world : World) (entity : Entity) (name : String) (gap : Binary64) (action : Action),
      entity ∈ world.entities → entity.name = some name → Text.IsSolid name.toList →
        entity.position.distanceFrom world.position = .ok gap → gap.le attackRadius = true →
          Action.read? ("ACTION: attack " ++ name) = some action →
            (dispatch body world action).ok = true := by
  intro h
  let steve : Entity := ⟨"player", ⟨10, 64, 0⟩, some "Steve", 20⟩
  have hmem : steve ∈ starter.entities := by simp [starter, steve]
  have hgap : steve.position.distanceFrom starter.position =
      .ok (starter.position.distance ⟨10, 64, 0⟩) := by decide +kernel
  have hfailed : (dispatch body starter ⟨"attack", some ["Steve"], "Steve"⟩).ok = false := by
    decide +kernel
  have hok := h starter steve "Steve" _ ⟨"attack", some ["Steve"], "Steve"⟩ hmem rfl
    (by decide +kernel) hgap (by decide +kernel) (by decide +kernel)
  rw [hfailed] at hok
  exact Bool.false_ne_true hok

end World

end Rulebound
