import Rulebound.Proofs.World.Mining

/-!
# What is made

A thing is made of all its ingredients or not at all. Of every thing there is afterwards what there
was, less what the recipe needs of it and more by what the recipe makes of it.
-/

namespace Rulebound.World

variable {world : World} {name item : String} {recipe : Recipe}

/-! ## Finding a table -/

theorem isSome_nearer (best : Option (Binary64 × Coord)) (gap : Binary64) (coord : Coord) :
    (nearer best gap coord).isSome = (best.isSome || !searchRadius.lt gap) := by
  unfold nearer
  cases searchRadius.lt gap with
  | true => cases best <;> rfl
  | false =>
      cases best with
      | none => rfl
      | some least => cases hless : gap.lt least.1 <;> simp [hless]

/-- Something is found exactly if every block that passes the test can be measured and one of them
is not beyond reach. Where the agent stands nowhere, no distance is beyond anything. -/
theorem exists_findAux {origin : Position} {passes : String → Bool}
    {entries : List (Coord × String)} (best : Option (Binary64 × Coord)) :
    (∃ coord, findAux origin passes best entries = .ok (some coord)) ↔
      (∀ entry ∈ entries, passes entry.2 = true → entry.1.IsMeasurable) ∧
        (best.isSome = true ∨ ∃ entry ∈ entries, passes entry.2 = true ∧
          ∃ gap, entry.1.distanceFrom origin = .ok gap ∧ searchRadius.lt gap = false) := by
  induction entries generalizing best with
  | nil => cases best <;> simp [findAux]
  | cons entry rest ih =>
      unfold findAux
      simp only [List.forall_mem_cons, List.exists_mem_cons_iff]
      by_cases hpasses : passes entry.2 = true
      · rw [if_pos hpasses]
        cases hgap : entry.1.distanceFrom origin with
        | error fault =>
            simp only [hpasses, Coord.not_isMeasurable_of_error hgap, true_imp_iff, false_and,
              bind, Except.bind, reduceCtorEq, exists_false]
        | ok gap =>
            have hnext := ih (nearer best gap entry.1)
            rw [isSome_nearer, Bool.or_eq_true, Bool.not_eq_true', or_assoc] at hnext
            simp only [hpasses, Coord.isMeasurable_of_ok hgap, true_imp_iff, true_and,
              Except.ok.injEq, exists_eq_left']
            exact hnext
      · simp only [hpasses, if_false, Bool.false_eq_true, false_imp_iff, true_and, false_and,
          false_or]
        exact ih best

/-- All tables can be measured, and one of them is not beyond reach. -/
def HasTable (world : World) : Prop :=
  world.CanMeasure "crafting_table" ∧ ∃ entry ∈ world.blocks.entries,
    entry.2 = "crafting_table" ∧
      ∃ gap, entry.1.distanceFrom world.position = .ok gap ∧ searchRadius.lt gap = false

theorem exists_findTable :
    (∃ coord, world.findBlock (· == "crafting_table") = .ok (some coord)) ↔ world.HasTable := by
  unfold findBlock HasTable
  rw [exists_findAux, canMeasure_iff]
  simp only [Option.isSome_none, Bool.false_eq_true, false_or, beq_iff_eq]

/-- Where the agent stands somewhere, what is not beyond reach is within reach. -/
theorem hasTable_iff_hasNear (hplace : world.position.IsPlace) :
    world.HasTable ↔ world.CanMeasure "crafting_table" ∧ world.HasNear "crafting_table" := by
  rw [← exists_findTable, exists_findBlock hplace]

theorem hasTableFor_eq_ok :
    world.hasTableFor recipe = .ok true ↔ (recipe.needsTable = true → world.HasTable) := by
  unfold hasTableFor
  cases recipe.needsTable with
  | false => simp
  | true =>
      rw [← exists_findTable]
      cases world.findBlock (· == "crafting_table") with
      | error fault => simp [Functor.map, Except.map]
      | ok found => simp [Functor.map, Except.map, Option.isSome_iff_exists]

/-! ## Ingredients -/

def Recipe.needs (recipe : Recipe) (item : String) : Int :=
  (recipe.ingredients.lookup item).getD 0

def Holds (world : World) (recipe : Recipe) : Prop :=
  ∀ ingredient ∈ recipe.ingredients, ingredient.2 ≤ world.countOf ingredient.1

instance (world : World) (recipe : Recipe) : Decidable (world.Holds recipe) :=
  inferInstanceAs (Decidable (∀ ingredient ∈ recipe.ingredients, _))

theorem missing?_eq_none : world.missing? recipe = none ↔ world.Holds recipe := by
  simp [missing?, Holds, List.find?_eq_none]

theorem countOf_give (world : World) (item : String) (count : Int) (other : String) :
    (world.give item count).countOf other =
      world.countOf other + if other = item then count else 0 := by
  unfold countOf
  rw [get?_give]
  by_cases hother : other = item
  · rw [if_pos hother.symm, if_pos hother, hother]
    rfl
  · rw [if_neg (Ne.symm hother), if_neg hother, Int.add_zero]

theorem countOf_takeAll {ingredients : List (String × Int)}
    (hnodup : (ingredients.map Prod.fst).Nodup)
    (h : ∀ ingredient ∈ ingredients, ingredient.2 ≤ world.countOf ingredient.1) (item : String) :
    (world.takeAll ingredients).countOf item =
      world.countOf item - (ingredients.lookup item).getD 0 := by
  induction ingredients generalizing world with
  | nil => exact (Int.sub_zero _).symm
  | cons ingredient rest ih =>
      have hrest := ih (List.nodup_cons.1 hnodup).2 (le_countOf_take hnodup h)
      have hstep : (world.takeAll (ingredient :: rest)).countOf item =
          (world.take ingredient.1 ingredient.2).countOf item - (rest.lookup item).getD 0 := hrest
      rw [hstep]
      by_cases hitem : item = ingredient.1
      · -- What is taken first is not taken again.
        subst hitem
        have hlater : rest.lookup ingredient.1 = none := by
          rw [List.lookup_eq_none_iff]
          intro other hother
          have hne : ingredient.1 ≠ other.1 := fun heq =>
            (List.nodup_cons.1 hnodup).1 (heq ▸ List.mem_map_of_mem hother)
          simpa using hne
        rw [countOf_take_self (h ingredient List.mem_cons_self), hlater]
        simp [List.lookup]
      · rw [countOf_take_of_ne (Ne.symm hitem), List.lookup, beq_eq_false_iff_ne.2 hitem]

/-! ## The whole operation -/

theorem craft_result (name : String) (world : World) :
    (world.perform (.craft name)).result = .ok (.bool true) ↔
      ∃ recipe, recipe? name = some recipe ∧ world.Holds recipe ∧
        (recipe.needsTable = true → world.HasTable) := by
  have hperform : world.perform (.craft name) = answer (craft name world) := rfl
  rw [hperform, answer_result]
  constructor
  · intro hok
    obtain ⟨recipe, hknown, htable, hmissing, -⟩ := (craft_spec name world).done_of_ok hok
    exact ⟨recipe, hknown, missing?_eq_none.1 hmissing, hasTableFor_eq_ok.1 htable⟩
  · rintro ⟨recipe, hknown, hholds, htable⟩
    unfold craft
    rw [hknown, Act.result_find_eq_ok]
    refine ⟨true, hasTableFor_eq_ok.2 htable, ?_⟩
    rw [if_pos rfl, Act.result_look, missing?_eq_none.2 hholds]
    exact (useUp_bind recipe.ingredients _ world).2

/-- A thing was made as a recipe says. -/
structure Crafted (world after : World) (name : String) (recipe : Recipe) : Prop where
  counts : ∀ item, after.countOf item =
    world.countOf item - recipe.needs item + if item = name then recipe.count else 0
  /-- What there is none of is not carried any more. -/
  entries : ∀ item, after.inventory.get? item =
    if after.countOf item = 0 then none else some (after.countOf item)
  others : ∀ item, item ∉ recipe.ingredients.map Prod.fst → item ≠ name →
    after.inventory.get? item = world.inventory.get? item
  blocks : after.blocks = world.blocks

theorem Stocked.get?_eq (h : world.Stocked) (item : String) :
    world.inventory.get? item =
      if world.countOf item = 0 then none else some (world.countOf item) := by
  unfold countOf
  cases hget : world.inventory.get? item with
  | none => rfl
  | some count =>
      have hpos : 0 < count := stocked_iff.1 h item count hget
      exact (if_neg (by simp; omega)).symm

theorem Recipe.needs_eq_zero (h : item ∉ recipe.ingredients.map Prod.fst) :
    recipe.needs item = 0 := by
  have hnone : recipe.ingredients.lookup item = none := by
    rw [List.lookup_eq_none_iff]
    intro ingredient hmem
    have hne : item ≠ ingredient.1 := fun heq => h (heq ▸ List.mem_map_of_mem hmem)
    simpa using hne
  rw [needs, hnone]
  rfl

theorem crafted_takeAll_give (hstocked : world.Stocked) (hknown : recipe? name = some recipe)
    (hholds : world.Holds recipe) :
    Crafted world ((world.takeAll recipe.ingredients).give name recipe.count).advance name
      recipe := by
  obtain ⟨-, hmade, hnodup⟩ := recipe_isFair hknown
  have hcounts : ∀ item,
      ((world.takeAll recipe.ingredients).give name recipe.count).advance.countOf item =
        world.countOf item - recipe.needs item + if item = name then recipe.count else 0 := by
    intro item
    have hsame : ((world.takeAll recipe.ingredients).give name recipe.count).advance.countOf item =
        ((world.takeAll recipe.ingredients).give name recipe.count).countOf item := by
      rw [countOf, advance_inventory]
      rfl
    rw [hsame, countOf_give, countOf_takeAll hnodup hholds, Recipe.needs]
  have hafter : ((world.takeAll recipe.ingredients).give name recipe.count).advance.Stocked :=
    ((hstocked.takeAll _).give hmade name).advance
  refine ⟨hcounts, hafter.get?_eq, fun item hitem hne => ?_, ?_⟩
  · rw [hafter.get?_eq, hstocked.get?_eq, hcounts, Recipe.needs_eq_zero hitem, if_neg hne,
      Int.sub_zero, Int.add_zero]
  · rw [advance_blocks]
    exact takeAll_blocks world recipe.ingredients

/-- Making a thing succeeds exactly if there is a recipe for it, the agent carries enough of every
ingredient, and, where the recipe needs a table, there is one that is not beyond reach while all
tables can be measured. Then it is made as the recipe says; otherwise the world stays as it is. -/
theorem crafting_exact (world : World) (name : String) (hstocked : world.Stocked) :
    ((world.perform (.craft name)).result = .ok (.bool true) ↔
      ∃ recipe, recipe? name = some recipe ∧ world.Holds recipe ∧
        (recipe.needsTable = true → world.HasTable)) ∧
    (world.position.IsPlace →
      (world.HasTable ↔ world.CanMeasure "crafting_table" ∧ world.HasNear "crafting_table")) ∧
    ((world.perform (.craft name)).result = .ok (.bool true) →
      ∃ recipe, recipe? name = some recipe ∧
        Crafted world (world.perform (.craft name)).state name recipe) ∧
    ((world.perform (.craft name)).result ≠ .ok (.bool true) →
      (world.perform (.craft name)).state = world) := by
  refine ⟨craft_result name world, hasTable_iff_hasNear, fun hok => ?_, fun hfailed => ?_⟩
  · have hact : (craft name world).result = .ok true := answer_result.1 hok
    obtain ⟨recipe, hknown, -, hmissing, hafter⟩ := (craft_spec name world).done_of_ok hact
    have hstate : (world.perform (.craft name)).state =
        ((world.takeAll recipe.ingredients).give name recipe.count).advance := hafter
    rw [hstate]
    exact ⟨recipe, hknown, crafted_takeAll_give hstocked hknown (missing?_eq_none.1 hmissing)⟩
  · exact (craft_spec name world).state_eq fun hok => hfailed (answer_result.2 hok)

def besideTables : World where
  blocks := .ofList [(⟨40, 64, 0⟩, "crafting_table"), (⟨3, 64, 0⟩, "crafting_table")]
  inventory := .ofList [("cobblestone", 3), ("apple", 1), ("stick", 5)]

/-- The last stones are used up; the apple is left alone. -/
theorem besideTables_crafting_exact :
    besideTables.Stocked ∧
      (besideTables.perform (.craft "stone_pickaxe")).result = .ok (.bool true) ∧
      (besideTables.perform (.craft "stone_pickaxe")).state.inventory.get? "cobblestone" = none ∧
      (besideTables.perform (.craft "stone_pickaxe")).state.countOf "stick" = 3 ∧
      (besideTables.perform (.craft "stone_pickaxe")).state.countOf "stone_pickaxe" = 1 ∧
      (besideTables.perform (.craft "stone_pickaxe")).state.inventory.get? "apple" = some 1 := by
  have hstocked : besideTables.Stocked := by decide
  have hplace : besideTables.position.IsPlace := by decide +kernel
  obtain ⟨hresult, htable, hmade, -⟩ :=
    crafting_exact besideTables "stone_pickaxe" hstocked
  have hnear : besideTables.HasTable :=
    (htable hplace).2 ⟨by decide +kernel, by decide +kernel⟩
  have hok := hresult.2 ⟨_, rfl, by decide, fun _ => hnear⟩
  obtain ⟨recipe, hknown, hcounts, hentries, hothers, -⟩ := hmade hok
  obtain rfl := Option.some.inj hknown
  refine ⟨hstocked, hok, ?_, ?_, ?_, ?_⟩
  · rw [hentries, hcounts]
    decide
  · rw [hcounts]
    decide
  · rw [hcounts]
    decide
  · rw [hothers "apple" (by decide) (by decide)]
    decide

/-- A near table is neither enough nor needed: a table that is too far away to be measured keeps the
near one from being used, and an agent that stands nowhere uses a table from any distance. -/
theorem near_table_not_decisive :
    (¬ ∀ (world : World) (name : String), world.Stocked →
      (∃ recipe, recipe? name = some recipe ∧ world.Holds recipe ∧
        (recipe.needsTable = true → world.HasNear "crafting_table")) →
      (world.perform (.craft name)).result = .ok (.bool true)) ∧
    ¬ ∀ (world : World) (name : String), world.Stocked →
      (world.perform (.craft name)).result = .ok (.bool true) →
      ∃ recipe, recipe? name = some recipe ∧ world.Holds recipe ∧
        (recipe.needsTable = true → world.HasNear "crafting_table") := by
  constructor
  · intro h
    let world : World := {
      blocks := .ofList [(⟨1, 64, 0⟩, "crafting_table"), (⟨10 ^ 309, 64, 0⟩, "crafting_table")]
      inventory := .ofList [("cobblestone", 8)] }
    have hok := h world "furnace" (by decide) ⟨_, rfl, by decide, fun _ => by decide +kernel⟩
    obtain ⟨recipe, hknown, -, htable⟩ := (craft_result "furnace" world).1 hok
    obtain rfl := Option.some.inj hknown
    have hnot : ¬ world.CanMeasure "crafting_table" := by decide +kernel
    exact hnot (htable rfl).1
  · intro h
    let world : World := {
      position := ⟨.nan, 64, Binary64.half⟩
      blocks := .ofList [(⟨100, 64, 0⟩, "crafting_table")]
      inventory := .ofList [("cobblestone", 8)] }
    have htable : world.HasTable :=
      ⟨by decide +kernel, _, .head _, rfl, .nan, by decide +kernel, by decide +kernel⟩
    have hok := (craft_result "furnace" world).2 ⟨_, rfl, by decide, fun _ => htable⟩
    obtain ⟨recipe, hknown, -, hnear⟩ := h world "furnace" (by decide) hok
    obtain rfl := Option.some.inj hknown
    have hnot : ¬ world.HasNear "crafting_table" := by decide +kernel
    exact hnot (hnear rfl)

end Rulebound.World
