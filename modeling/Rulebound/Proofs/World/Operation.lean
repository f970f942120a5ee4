import Rulebound.Proofs.Outcome
import Rulebound.Proofs.Table
import Rulebound.World.Operation

/-!
# What each operation does

Each operation does all that it is to do or leaves the world as it is. What it is to do is said
with everything that was checked before, so that nothing else needs to open an operation.
-/

namespace Rulebound.World

open Act

variable {world : World}

def takeAll (world : World) (ingredients : List (String × Int)) : World :=
  ingredients.foldl (fun world (item, count) => world.take item count) world

theorem useUp_bind {α : Type} (ingredients : List (String × Int)) (next : Unit → Act World α)
    (world : World) :
    ((useUp ingredients >>= next) world).state = (next () (world.takeAll ingredients)).state ∧
      ((useUp ingredients >>= next) world).result =
        (next () (world.takeAll ingredients)).result := by
  induction ingredients generalizing world with
  | nil => exact ⟨rfl, rfl⟩
  | cons ingredient rest ih => exact ih (world.take ingredient.1 ingredient.2)

theorem takeAll_eq (world : World) (ingredients : List (String × Int)) :
    world.takeAll ingredients =
      { world with inventory := (world.takeAll ingredients).inventory } := by
  induction ingredients generalizing world with
  | nil => rfl
  | cons ingredient rest ih => exact ih (world.take ingredient.1 ingredient.2)

@[simp] theorem takeAll_blocks (world : World) (ingredients : List (String × Int)) :
    (world.takeAll ingredients).blocks = world.blocks := by
  rw [takeAll_eq]

/-! ## What moving and passing time leave alone -/

-- The equations are rewritten and not reduced: to reduce them is to compute with the new position.
@[simp] theorem advance_inventory (world : World) : world.advance.inventory = world.inventory := by
  rw [advance]

@[simp] theorem advance_blocks (world : World) : world.advance.blocks = world.blocks := by
  rw [advance]

@[simp] theorem moveTo_inventory (world : World) (block : Coord) :
    (world.moveTo block).inventory = world.inventory := by
  rw [moveTo]

@[simp] theorem moveTo_blocks (world : World) (block : Coord) :
    (world.moveTo block).blocks = world.blocks := by
  rw [moveTo]

/-! ## Finding blocks -/

theorem nearer_snd (best : Option (Binary64 × Coord)) (gap : Binary64) (coord : Coord) :
    (nearer best gap coord).map (·.2) = best.map (·.2) ∨
      (nearer best gap coord).map (·.2) = some coord := by
  unfold nearer
  cases hfar : searchRadius.lt gap with
  | true => exact .inl rfl
  | false =>
      cases best with
      | none => exact .inr rfl
      | some least =>
          cases hless : gap.lt least.1 <;> simp [hless]

theorem findAux_mem {origin : Position} {passes : String → Bool} {entries : List (Coord × String)}
    {best : Option (Binary64 × Coord)} {coord : Coord}
    (h : findAux origin passes best entries = .ok (some coord)) :
    best.map (·.2) = some coord ∨ ∃ block, (coord, block) ∈ entries ∧ passes block = true := by
  induction entries generalizing best with
  | nil => exact .inl (by simpa [findAux] using h)
  | cons entry rest ih =>
      obtain ⟨place, block⟩ := entry
      unfold findAux at h
      by_cases hpasses : passes block = true
      · rw [if_pos hpasses] at h
        cases hgap : place.distanceFrom origin with
        | error fault =>
            rw [hgap] at h
            exact nomatch h
        | ok gap =>
            rw [hgap] at h
            have hrest : findAux origin passes (nearer best gap place) rest = .ok (some coord) := h
            rcases ih hrest with hbest | ⟨other, hmem, hother⟩
            · rcases nearer_snd best gap place with hsame | hnew
              · exact .inl (hsame ▸ hbest)
              · rw [hnew, Option.some.injEq] at hbest
                subst hbest
                exact .inr ⟨block, List.mem_cons_self, hpasses⟩
            · exact .inr ⟨other, List.mem_cons_of_mem _ hmem, hother⟩
      · rw [if_neg hpasses] at h
        rcases ih h with hbest | ⟨other, hmem, hother⟩
        · exact .inl hbest
        · exact .inr ⟨other, List.mem_cons_of_mem _ hmem, hother⟩

theorem findBlock_get? {passes : String → Bool} {coord : Coord}
    (h : world.findBlock passes = .ok (some coord)) :
    ∃ block, world.blocks.get? coord = some block ∧ passes block = true := by
  rcases findAux_mem h with hnone | ⟨block, hmem, hpasses⟩
  · exact nomatch hnone
  · exact ⟨block, Table.get?_eq_some.2 hmem, hpasses⟩

/-! ## Moving and looking -/

/-- Where the agent is after it went to a point. -/
def WentTo (world : World) (target : Position) (after : World) : Prop :=
  ∃ block, target.block = .ok block ∧ world.blocks.contains block = false ∧
    after = (world.moveTo block).advance

theorem WentTo.inventory {target : Position} {after : World} (h : world.WentTo target after) :
    after.inventory = world.inventory := by
  obtain ⟨block, -, -, rfl⟩ := h
  rw [advance_inventory, moveTo_inventory]

theorem WentTo.blocks {target : Position} {after : World} (h : world.WentTo target after) :
    after.blocks = world.blocks := by
  obtain ⟨block, -, -, rfl⟩ := h
  rw [advance_blocks, moveTo_blocks]

theorem goTo_spec (target : Position) (world : World) :
    (goTo target).AllOrNothing world (world.WentTo target) := by
  unfold goTo
  refine allOrNothing_find fun block hblock => allOrNothing_look ?_
  by_cases hsolid : world.blocks.contains block = true
  · rw [if_pos hsolid]
    exact allOrNothing_refuse _
  · rw [if_neg hsolid]
    exact allOrNothing_of_sure rfl ⟨block, hblock, by simpa using hsolid, rfl⟩

theorem moveDirection_spec (direction : String) (world : World) :
    (moveDirection direction).AllOrNothing world fun after =>
      ∃ dx dz, moveOffset? (Text.lower direction) = some (dx, dz) ∧
        world.WentTo ⟨world.position.x + Binary64.ofInt dx, world.position.y,
          world.position.z + Binary64.ofInt dz⟩ after := by
  unfold moveDirection
  cases hoffset : moveOffset? (Text.lower direction) with
  | none => exact allOrNothing_refuse _
  | some offset =>
      refine allOrNothing_look ?_
      refine (goTo_spec _ world).mono fun after hafter => ?_
      exact ⟨offset.1, offset.2, rfl, hafter⟩

theorem lookAt_spec (target : Position) (world : World) :
    (lookAt target).AllOrNothing world fun after =>
      after = { world with lookTarget := some target } :=
  allOrNothing_of_sure rfl rfl

/-! ## Blocks -/

theorem mineBlock_spec (name : String) (world : World) :
    (mineBlock name).AllOrNothing world fun after =>
      ∃ coord, world.findBlock (· == name) = .ok (some coord) ∧ world.canBreak name = true ∧
        after = ((world.clear coord).give (dropOf name) 1).advance := by
  unfold mineBlock
  refine allOrNothing_find fun found hfound => ?_
  cases found with
  | none => exact allOrNothing_refuse _
  | some coord =>
      refine allOrNothing_look ?_
      by_cases hbreak : world.canBreak name = true
      · rw [if_pos hbreak]
        exact allOrNothing_of_sure rfl ⟨coord, hfound, hbreak, rfl⟩
      · rw [if_neg hbreak]
        exact allOrNothing_refuse _

theorem placeBlock_spec (name : String) (world : World) :
    (placeBlock name).AllOrNothing world fun after =>
      ∃ block, world.position.block = .ok block ∧ 0 < world.countOf name ∧
        world.blocks.contains ⟨block.x + 1, block.y, block.z⟩ = false ∧
        after = ((world.build ⟨block.x + 1, block.y, block.z⟩ name).take name 1).advance := by
  unfold placeBlock
  refine allOrNothing_look ?_
  by_cases hcount : world.countOf name ≤ 0
  · rw [if_pos hcount]
    exact allOrNothing_refuse _
  · rw [if_neg hcount]
    refine allOrNothing_find fun block hblock => allOrNothing_look ?_
    by_cases hsolid : world.blocks.contains ⟨block.x + 1, block.y, block.z⟩ = true
    · rw [if_pos hsolid]
      exact allOrNothing_refuse _
    · rw [if_neg hsolid]
      exact allOrNothing_of_sure rfl
        ⟨block, hblock, by omega, by simpa using hsolid, rfl⟩

/-! ## Beings -/

theorem attackEntity_spec (name : String) (world : World) :
    (attackEntity name).AllOrNothing world fun after =>
      ∃ place, world.target? name = .ok (some place) ∧
        after = { world with entities := strike place world.entities }.advance := by
  unfold attackEntity
  refine allOrNothing_find fun found hfound => ?_
  cases found with
  | none => exact allOrNothing_refuse _
  | some place => exact allOrNothing_of_sure rfl ⟨place, hfound, rfl⟩

/-! ## Things -/

theorem eatFood_spec (world : World) :
    eatFood.AllOrNothing world fun after =>
      ∃ item, world.edible? = some item ∧
        after = ((world.take item 1).feed ((foodPoints? item).getD 0)).advance := by
  unfold eatFood
  refine allOrNothing_look ?_
  cases hitem : world.edible? with
  | none => exact allOrNothing_refuse _
  | some item => exact allOrNothing_of_sure rfl ⟨item, rfl, rfl⟩

theorem craft_spec (name : String) (world : World) :
    (craft name).AllOrNothing world fun after =>
      ∃ recipe, recipe? name = some recipe ∧ world.hasTableFor recipe = .ok true ∧
        world.missing? recipe = none ∧
        after = ((world.takeAll recipe.ingredients).give name recipe.count).advance := by
  unfold craft
  cases hrecipe : recipe? name with
  | none => exact allOrNothing_refuse _
  | some recipe =>
      refine allOrNothing_find fun table htable => ?_
      cases table with
      | false => exact allOrNothing_refuse _
      | true =>
          refine allOrNothing_look ?_
          cases hmissing : world.missing? recipe with
          | some lack => exact allOrNothing_refuse _
          | none =>
              obtain ⟨hstate, hresult⟩ := useUp_bind recipe.ingredients (fun _ => do
                Act.change (·.give name recipe.count)
                Act.change advance
                Act.succeed ("Crafted " ++ name)) world
              exact allOrNothing_of_sure hresult ⟨recipe, rfl, htable, hmissing, hstate⟩

theorem sleep_spec (world : World) :
    sleep.AllOrNothing world fun after =>
      (∃ bed, world.findBlock (fun block => Text.contains block "bed") = .ok (some bed)) ∧
        12000 ≤ world.time ∧ after = { world with time := 0 } := by
  unfold sleep
  refine allOrNothing_find fun found hfound => ?_
  cases found with
  | none => exact allOrNothing_refuse _
  | some bed =>
      refine allOrNothing_look ?_
      by_cases htime : world.time < 12000
      · rw [if_pos htime]
        exact allOrNothing_refuse _
      · rw [if_neg htime]
        exact allOrNothing_of_sure rfl ⟨⟨bed, hfound⟩, by omega, rfl⟩

/-! ## Calls -/

/-- What a call does to a world where it does anything, with all that was checked before. -/
inductive Does (world : World) : Call → World → Prop
  | moved {direction : String} {dx dz : Int} {after : World}
      (offset : moveOffset? (Text.lower direction) = some (dx, dz))
      (went : world.WentTo ⟨world.position.x + Binary64.ofInt dx, world.position.y,
        world.position.z + Binary64.ofInt dz⟩ after) :
      Does world (.moveDirection direction) after
  | went {target : Position} {after : World} (went : world.WentTo target after) :
      Does world (.goTo target) after
  | mined {name : String} {coord : Coord}
      (found : world.findBlock (· == name) = .ok (some coord))
      (breaks : world.canBreak name = true) :
      Does world (.mineBlock name) ((world.clear coord).give (dropOf name) 1).advance
  | hit {name : String} {place : Nat} (target : world.target? name = .ok (some place)) :
      Does world (.attackEntity name)
        { world with entities := strike place world.entities }.advance
  | made {name : String} {recipe : Recipe} (known : recipe? name = some recipe)
      (table : world.hasTableFor recipe = .ok true) (enough : world.missing? recipe = none) :
      Does world (.craft name) ((world.takeAll recipe.ingredients).give name recipe.count).advance
  | placed {name : String} {block : Coord} (here : world.position.block = .ok block)
      (carried : 0 < world.countOf name)
      (free : world.blocks.contains ⟨block.x + 1, block.y, block.z⟩ = false) :
      Does world (.placeBlock name)
        ((world.build ⟨block.x + 1, block.y, block.z⟩ name).take name 1).advance
  | ate {item : String} (edible : world.edible? = some item) :
      Does world .eatFood ((world.take item 1).feed ((foodPoints? item).getD 0)).advance
  | slept {bed : Coord}
      (found : world.findBlock (fun block => Text.contains block "bed") = .ok (some bed))
      (night : 12000 ≤ world.time) : Does world .sleep { world with time := 0 }
  | said (message : String) : Does world (.chat message) (world.chat message)
  | looked (target : Position) :
      Does world (.lookAt target) { world with lookTarget := some target }

theorem answer_result {outcome : Outcome World Bool} :
    (answer outcome).result = .ok (.bool true) ↔ outcome.result = .ok true := by
  unfold answer Outcome.map
  cases outcome.result with
  | error fault => exact ⟨nofun, nofun⟩
  | ok done => simp [Except.map]

def grants (world : World) (call : Call) : Bool :=
  match (world.perform call).result with
  | .ok answer => answer.isTruthy
  | .error _ => false

theorem cases_of_spec {call : Call} {act : Act World Bool} {done : World → Prop}
    (hcall : world.perform call = answer (act world)) (hspec : act.AllOrNothing world done)
    (hdoes : ∀ after, done after → Does world call after) :
    (Does world call (world.perform call).state ∧
      (world.grants call = true ∨ ∃ message, call = .chat message)) ∨
    (world.grants call = false ∧ (world.perform call).state = world) := by
  unfold grants
  rw [hcall]
  unfold answer Outcome.map
  rcases hspec with ⟨hok, hafter⟩ | ⟨hfailed, hsame⟩
  · exact .inl ⟨hdoes _ hafter, .inl (by rw [hok]; rfl)⟩
  · refine .inr ⟨?_, hsame⟩
    cases hresult : (act world).result with
    | error fault => rfl
    | ok value =>
        cases value with
        | false => rfl
        | true => exact absurd hresult hfailed

/-- A call is granted and does what it is to do, or it is not granted and nothing happens. What is
said is heard without an answer. -/
theorem perform_cases (world : World) (call : Call) :
    (Does world call (world.perform call).state ∧
      (world.grants call = true ∨ ∃ message, call = .chat message)) ∨
    (world.grants call = false ∧ (world.perform call).state = world) := by
  cases call with
  | moveDirection direction =>
      refine cases_of_spec rfl (moveDirection_spec direction world) ?_
      rintro after ⟨dx, dz, hoffset, hwent⟩
      exact .moved hoffset hwent
  | goTo target => exact cases_of_spec rfl (goTo_spec target world) fun _ hwent => .went hwent
  | mineBlock name =>
      refine cases_of_spec rfl (mineBlock_spec name world) ?_
      rintro after ⟨coord, hfound, hbreak, rfl⟩
      exact .mined hfound hbreak
  | attackEntity name =>
      refine cases_of_spec rfl (attackEntity_spec name world) ?_
      rintro after ⟨place, htarget, rfl⟩
      exact .hit htarget
  | craft name =>
      refine cases_of_spec rfl (craft_spec name world) ?_
      rintro after ⟨recipe, hrecipe, htable, hmissing, rfl⟩
      exact .made hrecipe htable hmissing
  | placeBlock name =>
      refine cases_of_spec rfl (placeBlock_spec name world) ?_
      rintro after ⟨block, hhere, hcount, hfree, rfl⟩
      exact .placed hhere hcount hfree
  | eatFood =>
      refine cases_of_spec rfl (eatFood_spec world) ?_
      rintro after ⟨item, hitem, rfl⟩
      exact .ate hitem
  | sleep =>
      refine cases_of_spec rfl (sleep_spec world) ?_
      rintro after ⟨⟨bed, hbed⟩, hnight, rfl⟩
      exact .slept hbed hnight
  | chat message => exact .inl ⟨.said message, .inr ⟨message, rfl⟩⟩
  | lookAt target =>
      refine cases_of_spec rfl (lookAt_spec target world) ?_
      rintro after rfl
      exact .looked target

theorem Does.of_grants {call : Call} (h : world.grants call = true) :
    Does world call (world.perform call).state := by
  rcases perform_cases world call with ⟨hdoes, -⟩ | ⟨hnot, -⟩
  · exact hdoes
  · rw [h] at hnot
    exact Bool.noConfusion hnot

end Rulebound.World
