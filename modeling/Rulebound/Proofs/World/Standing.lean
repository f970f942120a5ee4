import Rulebound.Proofs.Number.Exact
import Rulebound.Proofs.World.Conservation
import Rulebound.Proofs.World.Run

/-!
# Where the agent stands

The agent goes only to places where nothing stands, and puts nothing where it stands itself. This
is a matter of rounding as well: the middle of a block must be a number, so that the block that the
agent then stands in is the one that it went to.
-/

namespace Rulebound

open Binary64

/-! ## Small coordinates -/

/-- A coordinate that is far from where the middle of a block is no longer a number. -/
def IsSmall (coordinate : Binary64) : Prop :=
  ∀ value ∈ coordinate.value?, |value| < 2 ^ 51

instance (coordinate : Binary64) : Decidable (IsSmall coordinate) :=
  inferInstanceAs (Decidable (∀ value ∈ coordinate.value?, |value| < 2 ^ 51))

namespace Position

structure IsSmall (position : Position) : Prop where
  x : Rulebound.IsSmall position.x
  y : Rulebound.IsSmall position.y
  z : Rulebound.IsSmall position.z

theorem isSmall_iff {position : Position} : position.IsSmall ↔
    Rulebound.IsSmall position.x ∧ Rulebound.IsSmall position.y ∧ Rulebound.IsSmall position.z :=
  ⟨fun h => ⟨h.x, h.y, h.z⟩, fun h => ⟨h.1, h.2.1, h.2.2⟩⟩

instance (position : Position) : Decidable position.IsSmall :=
  decidable_of_iff _ isSmall_iff.symm

theorem block_of_values {position : Position} {x y z : ℚ} (hx : position.x.value? = some x)
    (hy : position.y.value? = some y) (hz : position.z.value? = some z) :
    position.block = .ok ⟨⌊x⌋, ⌊y⌋, ⌊z⌋⟩ := by
  unfold block
  rw [floor_eq hx, floor_eq hy, floor_eq hz]
  rfl

/-- Only a point with three values lies in a block. -/
theorem values_of_block {position : Position} {here : Coord} (h : position.block = .ok here) :
    ∃ x y z, position.x.value? = some x ∧ position.y.value? = some y ∧
      position.z.value? = some z ∧ here = ⟨⌊x⌋, ⌊y⌋, ⌊z⌋⟩ := by
  have hparts : ∃ x y z, position.x.floor = .ok x ∧ position.y.floor = .ok y ∧
      position.z.floor = .ok z := by
    unfold block at h
    cases hx : position.x.floor with
    | error => rw [hx] at h; exact nomatch h
    | ok x =>
        cases hy : position.y.floor with
        | error => rw [hx, hy] at h; exact nomatch h
        | ok y =>
            cases hz : position.z.floor with
            | error => rw [hx, hy, hz] at h; exact nomatch h
            | ok z => exact ⟨x, y, z, rfl, rfl, rfl⟩
  obtain ⟨_, _, _, hx, hy, hz⟩ := hparts
  obtain ⟨x, hxvalue, -⟩ := value?_of_floor hx
  obtain ⟨y, hyvalue, -⟩ := value?_of_floor hy
  obtain ⟨z, hzvalue, -⟩ := value?_of_floor hz
  rw [block_of_values hxvalue hyvalue hzvalue, Except.ok.injEq] at h
  exact ⟨x, y, z, hxvalue, hyvalue, hzvalue, h.symm⟩

end Position

namespace World

variable {world after : World} {call : Call}

/-! ## The middle of a block -/

/-- How far from the origin a target may be: a little farther than the agent, which takes steps. -/
def reach : ℕ := 2 ^ 51 + 5

theorem floor_natAbs_le {value : ℚ} (h : |value| ≤ reach) : ⌊value⌋.natAbs ≤ reach := by
  obtain ⟨hlow, hhigh⟩ := abs_le.1 h
  have hbelow : -(reach : ℤ) ≤ ⌊value⌋ := by
    apply Int.le_floor.2
    exact_mod_cast hlow
  have habove : ⌊value⌋ ≤ (reach : ℤ) := by
    have hfloor := (Int.floor_le value).trans hhigh
    exact_mod_cast hfloor
  omega

theorem value?_middle {n : ℤ} (h : n.natAbs ≤ reach) :
    (ofInt n + half).value? = some ((n : ℚ) + 1 / 2) := by
  have hreach : reach = 2251799813685253 := rfl
  have hbits : pow2 53 = 9007199254740992 := rfl
  have hsum : (n : ℚ) + 1 / 2 = ((2 * n + 1 : ℤ) : ℚ) / 2 := by
    push_cast
    ring
  rw [hsum]
  exact add_halves (by omega) (value?_ofInt (by omega)) value?_half hsum

theorem floor_middle (n : ℤ) : ⌊(n : ℚ) + 1 / 2⌋ = n := by
  rw [Int.floor_intCast_add, Int.floor_eq_zero_iff.2 (by norm_num), add_zero]

/-- The agent stands in the middle of the block that a point lies in. -/
structure StandsAt (world : World) (x y z : ℚ) : Prop where
  block : world.position.block = .ok ⟨⌊x⌋, ⌊y⌋, ⌊z⌋⟩
  x : world.position.x.value? = some ((⌊x⌋ : ℚ) + 1 / 2)
  z : world.position.z.value? = some ((⌊z⌋ : ℚ) + 1 / 2)

theorem standsAt_moveTo {x y z : ℚ} (hx : |x| ≤ reach) (hy : |y| ≤ reach) (hz : |z| ≤ reach)
    (h : after.position = (world.moveTo ⟨⌊x⌋, ⌊y⌋, ⌊z⌋⟩).position) : after.StandsAt x y z := by
  rw [moveTo] at h
  have hxmiddle : after.position.x.value? = some ((⌊x⌋ : ℚ) + 1 / 2) := by
    rw [h, value?_middle (floor_natAbs_le hx)]
  have hyfloor : after.position.y.value? = some (⌊y⌋ : ℚ) := by
    rw [h, value?_ofInt ((floor_natAbs_le hy).trans (by decide))]
  have hzmiddle : after.position.z.value? = some ((⌊z⌋ : ℚ) + 1 / 2) := by
    rw [h, value?_middle (floor_natAbs_le hz)]
  refine ⟨?_, hxmiddle, hzmiddle⟩
  rw [Position.block_of_values hxmiddle hyfloor hzmiddle, floor_middle, floor_middle,
    Int.floor_intCast]

/-! ## Targets -/

/-- A point from where on a block still has a middle. -/
structure InReach (target : Position) : Prop where
  x : ∀ value ∈ target.x.value?, |value| ≤ reach
  y : ∀ value ∈ target.y.value?, |value| ≤ reach
  z : ∀ value ∈ target.z.value?, |value| ≤ reach

theorem le_reach {value : ℚ} (h : |value| < 2 ^ 51) : |value| ≤ reach := by
  have hreach : (reach : ℚ) = 2 ^ 51 + 5 := by norm_num [reach]
  linarith

theorem inReach_of_isSmall {target : Position} (h : target.IsSmall) : InReach target where
  x value hvalue := le_reach (h.x value hvalue)
  y value hvalue := le_reach (h.y value hvalue)
  z value hvalue := le_reach (h.z value hvalue)

theorem moveOffset_le {direction : String} {dx dz : ℤ}
    (h : moveOffset? direction = some (dx, dz)) : dx.natAbs ≤ 5 ∧ dz.natAbs ≤ 5 := by
  have hall : ∀ offset ∈ [("north", ((0 : ℤ), (-5 : ℤ))), ("south", (0, 5)), ("east", (5, 0)),
      ("west", (-5, 0))], offset.2.1.natAbs ≤ 5 ∧ offset.2.2.natAbs ≤ 5 := by decide
  exact hall _ (mem_of_lookup h)

/-- A step away from a small coordinate is not far from it, whatever is rounded. -/
theorem step_le_reach {coordinate : Binary64} {start : ℚ} {step : ℤ}
    (hstart : coordinate.value? = some start) (hsmall : |start| < 2 ^ 51)
    (hstep : step.natAbs ≤ 5) :
    ∀ value ∈ (coordinate + ofInt step).value?, |value| ≤ reach := by
  intro value hvalue
  have hbits : pow2 53 = 9007199254740992 := rfl
  have hreach : (reach : ℚ) = 2 ^ 51 + 5 := by norm_num [reach]
  have hsize : |(step : ℚ)| ≤ 5 := by
    rw [← Int.cast_abs, Int.abs_eq_natAbs]
    exact_mod_cast hstep
  have hsum : |start + step| ≤ reach := by
    have htriangle := abs_add_le start (step : ℚ)
    linarith
  obtain ⟨sum, hadded, hbound, -⟩ :=
    add_within (by decide) hstart (value?_ofInt (by omega)) hsum
  rw [hadded, Option.mem_some_iff] at hvalue
  exact hvalue ▸ hbound

/-- The agent arrives in the middle of the block that it went to, where nothing stands. -/
theorem WentTo.arrives {target : Position} (h : world.WentTo target after)
    (hreach : InReach target) :
    ∃ x y z, target.x.value? = some x ∧ target.y.value? = some y ∧ target.z.value? = some z ∧
      after.StandsAt x y z ∧ world.blocks.contains ⟨⌊x⌋, ⌊y⌋, ⌊z⌋⟩ = false := by
  obtain ⟨block, hblock, hfree, hafter⟩ := h
  obtain ⟨x, y, z, hx, hy, hz, rfl⟩ := Position.values_of_block hblock
  have hposition : after.position = (world.moveTo ⟨⌊x⌋, ⌊y⌋, ⌊z⌋⟩).position := by
    rw [hafter, advance]
  exact ⟨x, y, z, hx, hy, hz,
    standsAt_moveTo (hreach.x x hx) (hreach.y y hy) (hreach.z z hz) hposition, hfree⟩

/-! ## Free places -/

def StandsFree (world : World) : Prop :=
  ∃ here, world.position.block = .ok here ∧ world.blocks.contains here = false

theorem StandsFree.of_same (h : world.StandsFree) (hposition : after.position = world.position)
    (hblocks : after.blocks = world.blocks) : after.StandsFree := by
  unfold StandsFree
  rw [hposition, hblocks]
  exact h

theorem WentTo.standsFree {target : Position} (h : world.WentTo target after)
    (hreach : InReach target) : after.StandsFree := by
  obtain ⟨x, y, z, -, -, -, hstands, hfree⟩ := h.arrives hreach
  exact ⟨_, hstands.block, by rw [h.blocks]; exact hfree⟩

/-- Whether an operation leads only to places whose blocks have a middle: the agent is sent to a
small target, or takes its steps from a small place. -/
def Operation.StaysInReach (world : World) : Operation → Prop
  | .call (.goTo target) => target.IsSmall
  | .call (.moveDirection _) => world.position.IsSmall
  | _ => True

instance (world : World) (operation : Operation) : Decidable (operation.StaysInReach world) := by
  unfold Operation.StaysInReach
  split <;> infer_instance

theorem Does.standsFree (h : Does world call after) (hfree : world.StandsFree)
    (hreach : (Operation.call call).StaysInReach world) : after.StandsFree := by
  cases h with
  | @moved direction dx dz after hoffset hwent =>
      obtain ⟨here, hhere, -⟩ := hfree
      obtain ⟨x, y, z, hx, hy, hz, -⟩ := Position.values_of_block hhere
      have hsmall : world.position.IsSmall := hreach
      obtain ⟨hdx, hdz⟩ := moveOffset_le hoffset
      refine hwent.standsFree ⟨?_, ?_, ?_⟩
      · exact step_le_reach hx (hsmall.x x hx) hdx
      · exact fun value hvalue => le_reach (hsmall.y value hvalue)
      · exact step_le_reach hz (hsmall.z z hz) hdz
  | went hwent => exact hwent.standsFree (inReach_of_isSmall hreach)
  | @mined name coord hfound hbreaks =>
      obtain ⟨here, hhere, hnone⟩ := hfree
      refine ⟨here, hhere, ?_⟩
      rw [Table.contains_eq_false] at hnone
      have herased : (world.blocks.erase coord).get? here = none := by
        rw [Table.get?_erase]
        split
        · rfl
        · exact hnone
      rw [advance_blocks]
      exact Table.contains_eq_false.2 herased
  | hit => exact hfree.of_same (by rw [advance]) (advance_blocks _)
  | @made name recipe hknown htable henough =>
      refine hfree.of_same ?_ ?_
      · rw [advance, takeAll_eq, give]
      · rw [advance_blocks]
        exact takeAll_blocks world recipe.ingredients
  | @placed name block hhere hcarried hnone =>
      obtain ⟨here, hposition, hempty⟩ := hfree
      refine ⟨here, hposition, ?_⟩
      obtain rfl : block = here := Except.ok.inj (hhere.symm.trans hposition)
      -- The new block stands one step to the east of the agent.
      have hnext : (⟨block.x + 1, block.y, block.z⟩ : Coord) ≠ block := by
        intro hsame
        have hx := congrArg Coord.x hsame
        simp at hx
      have hbuilt : (world.blocks.insert ⟨block.x + 1, block.y, block.z⟩ name).get? block =
          none := by
        rw [Table.get?_insert, if_neg hnext, Table.contains_eq_false.1 hempty]
      rw [advance_blocks]
      exact Table.contains_eq_false.2 hbuilt
  | ate => exact hfree.of_same (by rw [advance]; rfl) (by rw [advance_blocks]; rfl)
  | slept => exact hfree
  | said => exact hfree
  | looked => exact hfree

/-! ## Runs -/

/-- Whether every operation of a run stays in reach. -/
def RunsInReach : World → List Operation → Prop
  | _, [] => True
  | world, operation :: rest =>
      operation.StaysInReach world ∧ (operation.apply world).RunsInReach rest

instance decidableRunsInReach (world : World) (operations : List Operation) :
    Decidable (world.RunsInReach operations) :=
  match operations with
  | [] => isTrue trivial
  | operation :: rest =>
      have := decidableRunsInReach (operation.apply world) rest
      inferInstanceAs (Decidable (_ ∧ _))

theorem standsFree_after {operations : List Operation} (h : world.StandsFree)
    (hreach : world.RunsInReach operations) : (world.after operations).StandsFree := by
  induction operations generalizing world with
  | nil => exact h
  | cons operation rest ih =>
      obtain ⟨hoperation, hrest⟩ := hreach
      have hfirst : (operation.apply world).StandsFree := by
        rcases operation.apply_cases world with ⟨request, rfl, hdoes⟩ | ⟨connected, hsame⟩
        · exact hdoes.standsFree h hoperation
        · rw [hsame]
          exact h
      exact ih hfirst hrest

/-- An agent that stands free stands free for ever, and where it is sent it arrives. -/
theorem never_inside_block {start : World} (h : start.StandsFree) {operations : List Operation}
    (hreach : start.RunsInReach operations) :
    (start.after operations).StandsFree ∧
      ∀ target : Position, target.IsSmall →
        (start.after operations).grants (.goTo target) = true →
        ∃ x y z, target.x.value? = some x ∧ target.y.value? = some y ∧
          target.z.value? = some z ∧
          ((start.after operations).perform (.goTo target)).state.StandsAt x y z := by
  refine ⟨standsFree_after h hreach, fun target hsmall hgrants => ?_⟩
  have hdoes := Does.of_grants hgrants
  generalize ((start.after operations).perform (.goTo target)).state = reached at hdoes ⊢
  cases hdoes with
  | went hwent =>
      obtain ⟨x, y, z, hx, hy, hz, hstands, -⟩ := hwent.arrives (inReach_of_isSmall hsmall)
      exact ⟨x, y, z, hx, hy, hz, hstands⟩

/-- A walk on the far side of zero, beside a block that the agent put there itself. -/
def besideOwnBlock : List Operation :=
  [.call (.placeBlock "dirt"), .call (.goTo ⟨ofRatio (-1) 4, 64, half⟩),
    .call (.moveDirection "West"), .disconnect]

def belowZero : World where
  position := ⟨ofRatio (-3) 2, 64, half⟩
  blocks := .ofList [(⟨-2, 63, 0⟩, "stone")]
  inventory := .ofList [("dirt", 1)]

theorem belowZero_never_inside_block :
    (belowZero.after besideOwnBlock).blocks.contains ⟨-1, 64, 0⟩ = true ∧
      (belowZero.after besideOwnBlock).StandsFree ∧
      ((belowZero.after besideOwnBlock).perform
        (.goTo ⟨ofRatio (-13) 4, 65, ofRatio (-1) 8⟩)).state.StandsAt (-13 / 4) 65 (-1 / 8) := by
  have hstart : belowZero.StandsFree := ⟨⟨-2, 64, 0⟩, by decide +kernel, by decide⟩
  have hreach : belowZero.RunsInReach besideOwnBlock := by decide +kernel
  obtain ⟨hfree, harrives⟩ := never_inside_block hstart hreach
  obtain ⟨x, y, z, hx, hy, hz, hstands⟩ :=
    harrives ⟨ofRatio (-13) 4, 65, ofRatio (-1) 8⟩ (by decide +kernel) (by decide +kernel)
  have hxvalue : (ofRatio (-13) 4).value? = some (-13 / 4 : ℚ) := by decide +kernel
  have hyvalue : (65 : Binary64).value? = some (65 : ℚ) := by decide +kernel
  have hzvalue : (ofRatio (-1) 8).value? = some (-1 / 8 : ℚ) := by decide +kernel
  simp only [hxvalue, hyvalue, hzvalue, Option.some.injEq] at hx hy hz
  subst hx hy hz
  exact ⟨by decide +kernel, hfree, hstands⟩

end World

end Rulebound
