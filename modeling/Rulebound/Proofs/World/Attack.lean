import Rulebound.Proofs.World.Beings
import Rulebound.Proofs.World.Nearest

/-!
# Who is attacked

Of the beings that go by a name, the nearest is hit, and of equally near ones the first. It is
removed by its fields and not by its place, but no being before it can have the same ones: such a
being would stand at the same place and would have been hit itself.
-/

namespace Rulebound.World

variable {world : World} {origin : Position} {name : String}

/-! ## Finding the being -/

def beingDistance (origin : Position) (entity : Entity) : Except Fault Binary64 :=
  entity.position.distanceFrom origin

/-- How far the being at a place in the list is, if it goes by a name and is within reach. -/
def beingGap? (name : String) (origin : Position) : Entity × Nat → Option Binary64 :=
  reached? (fun item => item.1.goesBy name) (fun item => beingDistance origin item.1) attackRadius

/-- Beings are looked through without a fault exactly if all of them that go by the name can be
measured, and then the first of the nearest is found. -/
theorem targetAux_eq_ok {entities : List Entity} (place : Nat)
    (best : Option (Binary64 × Entity × Nat)) {found : Option Nat} :
    targetAux origin name place (labelled Prod.snd best) entities = .ok found ↔
      (∀ entity ∈ entities, entity.goesBy name = true → entity.position.IsMeasurable) ∧
        (labelled Prod.snd ((entities.zipIdx place).foldl (better (beingGap? name origin))
          best)).map Prod.snd = found := by
  induction entities generalizing place best with
  | nil => simp only [targetAux, Except.ok.injEq, List.not_mem_nil, false_imp_iff, implies_true,
      true_and, List.zipIdx_nil, List.foldl_nil]
  | cons entity rest ih =>
      unfold targetAux
      rw [List.forall_mem_cons, List.zipIdx_cons, List.foldl_cons]
      by_cases hgoes : entity.goesBy name = true
      · rw [if_pos hgoes]
        cases hgap : entity.position.distanceFrom origin with
        | error fault =>
            simp only [hgoes, Coord.not_isMeasurable_of_error hgap, true_imp_iff, false_and,
              bind, Except.bind, reduceCtorEq]
        | ok gap =>
            have hnext := ih (place + 1) (better (beingGap? name origin) best (entity, place))
            unfold beingGap? at hnext
            rw [labelled_better (fun item : Entity × Nat => item.1.goesBy name)
              (fun item => beingDistance origin item.1) attackRadius Prod.snd (entity, place) hgoes
              hgap best] at hnext
            simp only [Coord.isMeasurable_of_ok hgap, implies_true, true_and]
            exact hnext
      · have hsame : better (beingGap? name origin) best (entity, place) = best :=
          better_of_not_counts (fun item : Entity × Nat => item.1.goesBy name) _ _ hgoes best
        rw [if_neg hgoes, hsame]
        simp only [hgoes, Bool.false_eq_true, false_imp_iff, true_and]
        exact ih (place + 1) best

def CanMeasureBeings (world : World) (name : String) : Prop :=
  ∀ entity ∈ world.entities, entity.goesBy name = true → entity.position.IsMeasurable

def HasNearBeing (world : World) (name : String) : Prop :=
  ∃ entity ∈ world.entities, entity.goesBy name = true ∧
    ∃ gap, entity.position.distanceFrom world.position = .ok gap ∧ gap.le attackRadius = true

instance (world : World) (name : String) : Decidable (world.CanMeasureBeings name) :=
  inferInstanceAs (Decidable (∀ entity ∈ world.entities, _))

theorem hasNearBeing_iff_any : world.HasNearBeing name ↔ (world.entities.any fun entity =>
    (reached? (fun entity => entity.goesBy name) (beingDistance world.position) attackRadius
      entity).isSome) = true := by
  simp only [HasNearBeing, List.any_eq_true, Option.isSome_iff_exists, reached?_eq_some,
    beingDistance, exists_and_left]

instance (world : World) (name : String) : Decidable (world.HasNearBeing name) :=
  decidable_of_iff _ hasNearBeing_iff_any.symm

/-- The being that goes by a name and is the nearest among all beings of a world. -/
def IsNearestBeing (world : World) (name : String) (earlier : List Entity) (hit : Entity)
    (later : List Entity) : Prop :=
  NearestOf (fun entity => entity.goesBy name) (beingDistance world.position) attackRadius earlier
    hit later

theorem target?_eq_some {place : Nat} (h : world.target? name = .ok (some place)) :
    world.CanMeasureBeings name ∧ ∃ earlier hit later,
      world.entities = earlier ++ hit :: later ∧ earlier.length = place ∧
        world.IsNearestBeing name earlier hit later := by
  obtain ⟨hmeasure, hfound⟩ := (targetAux_eq_ok 0 none).1 h
  refine ⟨hmeasure, ?_⟩
  unfold beingGap? at hfound
  rcases search_spec (fun item : Entity × Nat => item.1.goesBy name)
      (fun item => beingDistance world.position item.1) attackRadius world.entities.zipIdx with
    ⟨earlier, ⟨hit, found⟩, later, gap, hsplit, hbest, hnearest⟩ | ⟨hbest, -⟩
  · rw [hbest] at hfound
    have hplace : found = place := Option.some.inj hfound
    subst hplace
    have hentities : world.entities = earlier.map Prod.fst ++ hit :: later.map Prod.fst := by
      rw [← List.zipIdx_map_fst 0 world.entities, hsplit, List.map_append, List.map_cons]
    have hlength : found = earlier.length := by
      have hget : world.entities.zipIdx[earlier.length]? = some (hit, found) := by simp [hsplit]
      rw [List.getElem?_zipIdx] at hget
      simp only [Option.map_eq_some_iff, Prod.mk.injEq] at hget
      obtain ⟨-, -, -, hfound⟩ := hget
      omega
    obtain ⟨hgoes, gap, hgap, hreach, hearlier, hlater⟩ := hnearest
    refine ⟨_, hit, _, hentities, by rw [List.length_map, hlength], hgoes, gap, hgap, hreach,
      ?_, ?_⟩
    · rw [List.forall_mem_map]
      exact hearlier
    · rw [List.forall_mem_map]
      exact hlater
  · rw [hbest] at hfound
    exact nomatch hfound

theorem exists_target :
    (∃ place, world.target? name = .ok (some place)) ↔
      world.CanMeasureBeings name ∧ world.HasNearBeing name := by
  constructor
  · rintro ⟨place, hplace⟩
    obtain ⟨hmeasure, earlier, hit, later, hsplit, -, hnearest⟩ := target?_eq_some hplace
    obtain ⟨gap, hgap, hreach, -⟩ := hnearest.is_nearest
    have hmem : hit ∈ world.entities := by simp [hsplit]
    exact ⟨hmeasure, hit, hmem, hnearest.is_counted, gap, hgap, hreach⟩
  · rintro ⟨hmeasure, entity, hmem, hgoes, gap, hgap, hreach⟩
    rcases search_spec (fun item : Entity × Nat => item.1.goesBy name)
        (fun item => beingDistance world.position item.1) attackRadius world.entities.zipIdx with
      ⟨earlier, item, later, least, hsplit, hbest, hnearest⟩ | ⟨-, hfar⟩
    · refine ⟨item.2, (targetAux_eq_ok 0 none).2 ⟨hmeasure, ?_⟩⟩
      unfold beingGap?
      rw [hbest]
      rfl
    · obtain ⟨place, hplace⟩ := List.mem_iff_getElem?.1 hmem
      have hplaced : (entity, place) ∈ world.entities.zipIdx :=
        List.mk_mem_zipIdx_iff_getElem?.2 hplace
      rw [hfar (entity, place) hplaced hgoes gap hgap] at hreach
      exact nomatch hreach

/-! ## The being that is hit -/

theorem struck_health {entity : Entity} {health : ℚ} (h : entity.health.value? = some health)
    {rest : Binary64} (hrest : rest.value? = some (health - 10)) :
    entity.struck.health.value? = some (health - 10) :=
  Binary64.sub_exact h (Binary64.value?_ofInt (by decide)) hrest

-- Near large numbers the next ones are more than ten apart.
example : (Binary64.ofInt (10 ^ 17) - (Binary64.ofInt (10 ^ 17) - 10) == 16) = true := by
  decide +kernel

theorem equals_self {entity : Entity} (h : entity.health.isNan = false) :
    entity.equals entity = true := by
  simp [Entity.equals, Binary64.le_refl h]

/-- A being with the same fields as one that was hit stood where that one stands, and goes by the
same names. -/
theorem beingDistance_of_equals {hit other : Entity} (h : hit.struck.equals other = true) :
    other.goesBy name = hit.goesBy name ∧
      beingDistance origin other = beingDistance origin hit := by
  simp only [Entity.equals, Entity.struck, Bool.and_eq_true, beq_iff_eq] at h
  obtain ⟨⟨⟨⟨htype, hposition⟩, hname⟩, -⟩, -⟩ := h
  unfold Entity.goesBy beingDistance
  rw [htype, hposition, hname]
  exact ⟨rfl, rfl⟩

/-- No being before the nearest one is removed in its place. -/
theorem not_equals_of_earlier {earlier later : List Entity} {hit : Entity}
    (h : world.IsNearestBeing name earlier hit later) :
    ∀ other ∈ earlier, ¬ hit.struck.equals other = true := by
  intro other hmem hequals
  obtain ⟨hgoes, hsame⟩ := beingDistance_of_equals hequals
  obtain ⟨gap, hgap, hreach, hearlier, -⟩ := h.is_nearest
  have hfarther := hearlier other hmem (hgoes.trans h.is_counted) gap (hsame.trans hgap)
  rw [Binary64.le_refl (Binary64.isNan_of_le hreach).1] at hfarther
  exact Bool.noConfusion hfarther

theorem strike_nearest {earlier later : List Entity} {hit : Entity}
    (h : world.IsNearestBeing name earlier hit later) :
    strike earlier.length (earlier ++ hit :: later) =
      if hit.struck.health.le 0 then earlier ++ later else earlier ++ hit.struck :: later := by
  have hhit : (earlier ++ hit :: later)[earlier.length]? = some hit := by simp
  have hset : (earlier ++ hit :: later).set earlier.length hit.struck =
      earlier ++ hit.struck :: later := by simp
  unfold strike
  rw [hhit]
  simp only [hset]
  by_cases hgone : hit.struck.health.le 0 = true
  · have hself : hit.struck.equals hit.struck = true :=
      equals_self (Binary64.isNan_of_le hgone).1
    rw [if_pos hgone, if_pos hgone, List.eraseP_append_right _ (not_equals_of_earlier h),
      List.eraseP_cons_of_pos hself]
  · rw [if_neg hgone, if_neg hgone]

/-! ## The whole operation -/

theorem attackEntity_result (name : String) (world : World) :
    (world.perform (.attackEntity name)).result = .ok (.bool true) ↔
      ∃ place, world.target? name = .ok (some place) := by
  have hact : (attackEntity name world).result = .ok true ↔
      ∃ found, world.target? name = .ok found ∧ found.isSome = true := by
    unfold attackEntity
    rw [Act.result_find_eq_ok]
    refine exists_congr fun found => and_congr_right fun _ => ?_
    cases found with
    | none => exact ⟨nofun, nofun⟩
    | some place => exact ⟨fun _ => rfl, fun _ => rfl⟩
  have hperform : world.perform (.attackEntity name) = answer (attackEntity name world) := rfl
  rw [hperform, answer_result, hact]
  constructor
  · rintro ⟨found, hfound, hsome⟩
    obtain ⟨place, rfl⟩ := Option.isSome_iff_exists.1 hsome
    exact ⟨place, hfound⟩
  · rintro ⟨place, hfound⟩
    exact ⟨some place, hfound, rfl⟩

/-- One being that goes by a name was hit, the first of the nearest. It lost ten of its health and
is gone exactly if none is left to it; all others are as they were, in their order. -/
structure WasHit (world after : World) (name : String) (earlier : List Entity) (hit : Entity)
    (later : List Entity) : Prop where
  was_there : world.entities = earlier ++ hit :: later
  is_nearest : world.IsNearestBeing name earlier hit later
  outcome : after.entities =
    if (hit.health - 10).le 0 then earlier ++ later
    else earlier ++ { hit with health := hit.health - 10 } :: later
  loses_ten : ∀ health rest, hit.health.value? = some health →
    Binary64.value? rest = some (health - 10) → (hit.health - 10).value? = some (health - 10)

/-- An attack on a name succeeds exactly if all beings that go by it can be measured and one of them
is within reach. Then the first of the nearest is hit. -/
theorem attack_hits_nearest (world : World) (name : String) :
    ((world.perform (.attackEntity name)).result = .ok (.bool true) ↔
      world.CanMeasureBeings name ∧ world.HasNearBeing name) ∧
    ((world.perform (.attackEntity name)).result = .ok (.bool true) →
      ∃ earlier hit later,
        WasHit world (world.perform (.attackEntity name)).state name earlier hit later) := by
  constructor
  · rw [attackEntity_result, exists_target]
  · intro hok
    have hact : (attackEntity name world).result = .ok true := answer_result.1 hok
    obtain ⟨place, hfound, hafter⟩ := (attackEntity_spec name world).done_of_ok hact
    obtain ⟨-, earlier, hit, later, hsplit, rfl, hnearest⟩ := target?_eq_some hfound
    have hstate : (world.perform (.attackEntity name)).state =
        { world with entities := strike earlier.length world.entities }.advance := hafter
    refine ⟨earlier, hit, later, hsplit, hnearest, ?_, fun health rest hhealth hrest =>
      struck_health hhealth hrest⟩
    rw [hstate, advance_entities, hsplit]
    exact strike_nearest hnearest

/-- A being that is too far away to be measured keeps a near one from being hit. -/
theorem far_being_keeps_near_being :
    ¬ ∀ (world : World) (name : String),
      ((world.perform (.attackEntity name)).result = .ok (.bool true) ↔
        world.HasNearBeing name) := by
  intro h
  let world : World :=
    { entities := [⟨"zombie", ⟨1, 64, 0⟩, none, 20⟩, ⟨"zombie", ⟨10 ^ 309, 64, 0⟩, none, 20⟩] }
  have hok := (h world "zombie").2 (by decide +kernel)
  obtain ⟨hmeasured, -⟩ := exists_target.1 ((attackEntity_result "zombie" world).1 hok)
  have hnot : ¬ world.CanMeasureBeings "zombie" := by decide +kernel
  exact hnot hmeasured

end Rulebound.World
