import Rulebound.Proofs.World.Run
import Rulebound.World

/-!
# Nothing is made from nothing

Things and blocks can be weighed so that what is carried and what is built together keep their
weight whatever is done in a world: a broken block weighs what it becomes, and a made thing what
its ingredients weigh. Only eating takes weight away. So no way of mining, placing and making
brings forth more than there was.
-/

namespace Rulebound.World

variable {world : World}

/-! ## What is carried -/

/-- Everything that is carried is there at least once. -/
def Stocked (world : World) : Prop :=
  ∀ entry ∈ world.inventory.entries, 0 < entry.2

instance (world : World) : Decidable world.Stocked :=
  inferInstanceAs (Decidable (∀ entry ∈ world.inventory.entries, 0 < entry.2))

theorem stocked_iff :
    world.Stocked ↔ ∀ item count, world.inventory.get? item = some count → 0 < count := by
  constructor
  · exact fun h item count hget => h (item, count) (Table.get?_eq_some.1 hget)
  · exact fun h entry hmem => h entry.1 entry.2 (Table.get?_eq_some.2 hmem)

theorem Stocked.countOf_nonneg (h : world.Stocked) (item : String) : 0 ≤ world.countOf item := by
  unfold countOf
  cases hget : world.inventory.get? item with
  | none => exact Int.le_refl 0
  | some count => exact Int.le_of_lt (stocked_iff.1 h item count hget)

theorem Stocked.countOf_pos (h : world.Stocked) {item : String}
    (hkey : item ∈ world.inventory.keys) : 0 < world.countOf item := by
  obtain ⟨entry, hmem, rfl⟩ := List.mem_map.1 hkey
  have hget : world.inventory.get? entry.1 = some entry.2 := Table.get?_eq_some.2 hmem
  unfold countOf
  rw [hget]
  exact h entry hmem

theorem get?_give (world : World) (item : String) (count : Int) (other : String) :
    (world.give item count).inventory.get? other =
      if item = other then some (world.countOf item + count) else world.inventory.get? other :=
  Table.get?_insert world.inventory item _ other

theorem get?_take (world : World) (item : String) (count : Int) (other : String) :
    (world.take item count).inventory.get? other =
      if item = other then
        if 0 < world.countOf item - count then some (world.countOf item - count) else none
      else world.inventory.get? other := by
  unfold take
  by_cases hremains : 0 < world.countOf item - count
  · simp only [hremains, ↓reduceIte, Table.get?_insert]
  · simp only [hremains, ↓reduceIte, Table.get?_erase]

theorem Stocked.give (h : world.Stocked) {count : Int} (hcount : 0 < count) (item : String) :
    (world.give item count).Stocked := by
  refine stocked_iff.2 fun other amount hget => ?_
  rw [get?_give] at hget
  by_cases hitem : item = other
  · rw [if_pos hitem, Option.some.injEq] at hget
    have hold := h.countOf_nonneg item
    omega
  · rw [if_neg hitem] at hget
    exact stocked_iff.1 h other amount hget

theorem Stocked.take (h : world.Stocked) (item : String) (count : Int) :
    (world.take item count).Stocked := by
  refine stocked_iff.2 fun other amount hget => ?_
  rw [get?_take] at hget
  by_cases hitem : item = other
  · rw [if_pos hitem] at hget
    by_cases hremains : 0 < world.countOf item - count
    · rw [if_pos hremains, Option.some.injEq] at hget
      omega
    · rw [if_neg hremains] at hget
      exact nomatch hget
  · rw [if_neg hitem] at hget
    exact stocked_iff.1 h other amount hget

theorem Stocked.takeAll (h : world.Stocked) (ingredients : List (String × Int)) :
    (world.takeAll ingredients).Stocked := by
  induction ingredients generalizing world with
  | nil => exact h
  | cons ingredient rest ih => exact ih (h.take ingredient.1 ingredient.2)

theorem countOf_take_of_ne {item other : String} (hne : item ≠ other) (count : Int) :
    (world.take item count).countOf other = world.countOf other := by
  unfold countOf
  rw [get?_take, if_neg hne]

theorem countOf_take_self {item : String} {count : Int} (h : count ≤ world.countOf item) :
    (world.take item count).countOf item = world.countOf item - count := by
  have hget := get?_take world item count item
  rw [if_pos rfl] at hget
  unfold countOf at h hget ⊢
  rw [hget]
  split
  · rfl
  · simp only [Option.getD_none]
    omega

theorem le_countOf_take {ingredient : String × Int} {rest : List (String × Int)}
    (hnodup : ((ingredient :: rest).map Prod.fst).Nodup)
    (h : ∀ other ∈ ingredient :: rest, other.2 ≤ world.countOf other.1) :
    ∀ other ∈ rest, other.2 ≤ (world.take ingredient.1 ingredient.2).countOf other.1 := by
  intro other hmem
  have hne : ingredient.1 ≠ other.1 := fun heq =>
    (List.nodup_cons.1 hnodup).1 (heq ▸ List.mem_map_of_mem hmem)
  rw [countOf_take_of_ne hne]
  exact h other (List.mem_cons_of_mem _ hmem)

/-! ## Weighing -/

section Weighing

variable (weight : String → Int)

def goods (world : World) : Int :=
  world.inventory.total (fun item count => count * weight item) +
    world.blocks.total fun _ block => weight block

theorem goods_congr {after : World} (hinventory : after.inventory = world.inventory)
    (hblocks : after.blocks = world.blocks) : after.goods weight = world.goods weight := by
  unfold goods
  rw [hinventory, hblocks]

theorem goods_advance (world : World) : world.advance.goods weight = world.goods weight :=
  goods_congr weight (advance_inventory world) (advance_blocks world)

theorem share_inventory (world : World) (item : String) :
    world.inventory.share (fun item count => count * weight item) item =
      world.countOf item * weight item := by
  unfold Table.share countOf
  cases world.inventory.get? item <;> simp

theorem goods_give (world : World) (item : String) (count : Int) :
    (world.give item count).goods weight = world.goods weight + count * weight item := by
  simp only [goods, give]
  rw [Table.total_insert, share_inventory, Int.add_mul]
  omega

theorem goods_take {item : String} {count : Int} (h : count ≤ world.countOf item) :
    (world.take item count).goods weight = world.goods weight - count * weight item := by
  simp only [goods, take]
  by_cases hremains : 0 < world.countOf item - count
  · rw [if_pos hremains, Table.total_insert, share_inventory, Int.sub_mul]
    omega
  · have hall : world.countOf item = count := by omega
    rw [if_neg hremains, Table.total_erase, share_inventory, hall]
    omega

def burden (ingredients : List (String × Int)) : Int :=
  Table.sumOf (fun item count => count * weight item) ingredients

theorem goods_takeAll {ingredients : List (String × Int)}
    (hnodup : (ingredients.map Prod.fst).Nodup)
    (h : ∀ ingredient ∈ ingredients, ingredient.2 ≤ world.countOf ingredient.1) :
    (world.takeAll ingredients).goods weight = world.goods weight - burden weight ingredients := by
  induction ingredients generalizing world with
  | nil => simp [takeAll, burden, Table.sumOf]
  | cons ingredient rest ih =>
      have hfirst := goods_take weight (h ingredient List.mem_cons_self)
      have hsum : burden weight (ingredient :: rest) =
          ingredient.2 * weight ingredient.1 + burden weight rest := rfl
      calc (world.takeAll (ingredient :: rest)).goods weight
          = ((world.take ingredient.1 ingredient.2).takeAll rest).goods weight := rfl
        _ = (world.take ingredient.1 ingredient.2).goods weight - burden weight rest :=
            ih (List.nodup_cons.1 hnodup).2 (le_countOf_take hnodup h)
        _ = world.goods weight - burden weight (ingredient :: rest) := by omega

theorem goods_clear {coord : Coord} {block : String} (h : world.blocks.get? coord = some block) :
    (world.clear coord).goods weight = world.goods weight - weight block := by
  simp only [goods, clear]
  have hshare : world.blocks.share (fun _ block => weight block) coord = weight block := by
    simp [Table.share, h]
  rw [Table.total_erase, hshare]
  omega

theorem goods_build {coord : Coord} (h : world.blocks.contains coord = false) (block : String) :
    (world.build coord block).goods weight = world.goods weight + weight block := by
  simp only [goods, build]
  have hshare : world.blocks.share (fun _ block => weight block) coord = 0 := by
    simp [Table.share, Table.contains_eq_false.1 h]
  rw [Table.total_insert, hshare]
  omega

end Weighing

/-! ## Fair weights -/

/-- The weights of the things that are made and of what they are made from; everything else weighs
one. -/
def weights : List (String × Int) := [
  ("oak_log", 8), ("oak_planks", 2), ("birch_log", 4), ("crafting_table", 8),
  ("wooden_pickaxe", 8), ("wooden_sword", 5), ("stone_pickaxe", 5), ("furnace", 8)]

def weightOf (name : String) : Int :=
  (weights.lookup name).getD 1

theorem mem_of_lookup {α : Type} {table : List (String × α)} {name : String} {value : α}
    (h : table.lookup name = some value) : (name, value) ∈ table := by
  obtain ⟨before, after, hsplit, -⟩ := List.lookup_eq_some_iff.1 h
  rw [hsplit]
  exact List.mem_append_right _ List.mem_cons_self

theorem weightOf_pos (name : String) : 0 < weightOf name := by
  unfold weightOf
  cases hweight : weights.lookup name with
  | none => exact Int.one_pos
  | some weight =>
      have hpos : ∀ entry ∈ weights, 0 < entry.2 := by decide
      exact hpos _ (mem_of_lookup hweight)

theorem weightOf_dropOf (block : String) : weightOf (dropOf block) = weightOf block := by
  unfold dropOf
  cases hdrop : drops.lookup block with
  | none => rfl
  | some drop =>
      have hfair : ∀ entry ∈ drops, weightOf entry.2 = weightOf entry.1 := by decide
      exact hfair _ (mem_of_lookup hdrop)

/-- What is made of some ingredients, each named once, weighs as much as they do. -/
def Recipe.IsFair (recipe : Recipe) (item : String) : Prop :=
  recipe.count * weightOf item = burden weightOf recipe.ingredients ∧ 0 < recipe.count ∧
    (recipe.ingredients.map Prod.fst).Nodup

instance (recipe : Recipe) (item : String) : Decidable (recipe.IsFair item) :=
  inferInstanceAs (Decidable (_ ∧ _ ∧ _))

theorem recipe_isFair {item : String} {recipe : Recipe} (h : recipe? item = some recipe) :
    recipe.IsFair item := by
  have hfair : ∀ entry ∈ recipes, entry.2.IsFair entry.1 := by decide
  exact hfair _ (mem_of_lookup h)

/-! ## What each operation does to the weight -/

theorem goods_mineBlock {name : String} {coord : Coord}
    (hfound : world.findBlock (· == name) = .ok (some coord)) :
    ((world.clear coord).give (dropOf name) 1).advance.goods weightOf = world.goods weightOf := by
  obtain ⟨block, hblock, hname⟩ := findBlock_get? hfound
  have hsame : block = name := by simpa using hname
  subst hsame
  rw [goods_advance, goods_give, goods_clear weightOf hblock, weightOf_dropOf]
  omega

theorem goods_placeBlock {name : String} {target : Coord} (hcount : 0 < world.countOf name)
    (hfree : world.blocks.contains target = false) :
    ((world.build target name).take name 1).advance.goods weightOf = world.goods weightOf := by
  have hcarried : 1 ≤ (world.build target name).countOf name := hcount
  rw [goods_advance, goods_take weightOf hcarried, goods_build weightOf hfree]
  omega

theorem le_of_missing {recipe : Recipe} (h : world.missing? recipe = none) :
    ∀ ingredient ∈ recipe.ingredients, ingredient.2 ≤ world.countOf ingredient.1 := by
  intro ingredient hmem
  have henough := List.find?_eq_none.1 h ingredient hmem
  simpa using henough

theorem goods_craft {name : String} {recipe : Recipe} (hrecipe : recipe? name = some recipe)
    (hmissing : world.missing? recipe = none) :
    ((world.takeAll recipe.ingredients).give name recipe.count).advance.goods weightOf =
      world.goods weightOf := by
  obtain ⟨hbalance, -, hnodup⟩ := recipe_isFair hrecipe
  rw [goods_advance, goods_give, goods_takeAll weightOf hnodup (le_of_missing hmissing), hbalance]
  omega

/-- Something that can be eaten was eaten, one piece of it, and nothing else was touched. -/
structure Ate (before after : World) (item : String) : Prop where
  edible : (foodPoints? item).isSome
  one_less : after.countOf item = before.countOf item - 1
  others : ∀ other, item ≠ other → after.countOf other = before.countOf other
  blocks : after.blocks = before.blocks

theorem ate_edible (hstocked : world.Stocked) {item : String} (h : world.edible? = some item)
    (points : Int) :
    Ate world ((world.take item 1).feed points).advance item ∧
      ((world.take item 1).feed points).advance.goods weightOf =
        world.goods weightOf - weightOf item := by
  have hcarried : 1 ≤ world.countOf item := hstocked.countOf_pos (List.mem_of_find?_eq_some h)
  have hfed : ((world.take item 1).feed points).goods weightOf =
      (world.take item 1).goods weightOf := goods_congr weightOf rfl rfl
  have hcount : ∀ other, ((world.take item 1).feed points).advance.countOf other =
      (world.take item 1).countOf other := by
    intro other
    unfold countOf
    rw [advance_inventory]
    rfl
  constructor
  · exact {
      edible := List.find?_some (p := fun item => (foodPoints? item).isSome) h
      one_less := (hcount item).trans (countOf_take_self hcarried)
      others := fun other hne => (hcount other).trans (countOf_take_of_ne hne 1)
      blocks := advance_blocks _ }
  · rw [goods_advance, hfed, goods_take weightOf hcarried]
    omega

/-! ## Single calls -/

/-- From one world to another, nothing is gained or lost, and no thing is carried zero times. -/
structure Keeps (before after : World) : Prop where
  stocked : after.Stocked
  goods : after.goods weightOf = before.goods weightOf

theorem keeps_of_same (hstocked : world.Stocked) {after : World}
    (hinventory : after.inventory = world.inventory) (hblocks : after.blocks = world.blocks) :
    Keeps world after where
  stocked := by
    unfold Stocked
    rw [hinventory]
    exact hstocked
  goods := goods_congr weightOf hinventory hblocks

theorem Stocked.advance (h : world.Stocked) : world.advance.Stocked :=
  (keeps_of_same h (advance_inventory world) (advance_blocks world)).stocked

/-- Whatever is done but for a meal keeps all goods. -/
theorem Does.keeps {call : Call} {after : World} (h : Does world call after)
    (hstocked : world.Stocked) (hmeal : call ≠ .eatFood) : Keeps world after := by
  cases h with
  | moved _ hwent => exact keeps_of_same hstocked hwent.inventory hwent.blocks
  | went hwent => exact keeps_of_same hstocked hwent.inventory hwent.blocks
  | @mined name coord hfound _ =>
      have hcleared : (world.clear coord).Stocked := hstocked
      exact ⟨(hcleared.give Int.one_pos _).advance, goods_mineBlock hfound⟩
  | hit => exact keeps_of_same hstocked (advance_inventory _) (advance_blocks _)
  | made hrecipe _ hmissing =>
      obtain ⟨-, hcount, -⟩ := recipe_isFair hrecipe
      exact ⟨((hstocked.takeAll _).give hcount _).advance, goods_craft hrecipe hmissing⟩
  | @placed name block _ hcount hfree =>
      have hbuilt : (world.build ⟨block.x + 1, block.y, block.z⟩ name).Stocked := hstocked
      exact ⟨(hbuilt.take _ _).advance, goods_placeBlock hcount hfree⟩
  | ate => exact absurd rfl hmeal
  | slept => exact keeps_of_same hstocked rfl rfl
  | said => exact keeps_of_same hstocked rfl rfl
  | looked => exact keeps_of_same hstocked rfl rfl

/-- Whatever is done leaves nothing that is carried zero times. -/
theorem Does.stocked {call : Call} {after : World} (h : Does world call after)
    (hstocked : world.Stocked) : after.Stocked := by
  by_cases hmeal : call = .eatFood
  · subst hmeal
    cases h with
    | @ate item _ =>
        have hfed : ((world.take item 1).feed ((foodPoints? item).getD 0)).Stocked :=
          hstocked.take item 1
        exact hfed.advance
  · exact (h.keeps hstocked hmeal).stocked

theorem keeps_perform (hstocked : world.Stocked) {call : Call} (hmeal : call ≠ .eatFood) :
    Keeps world (world.perform call).state := by
  rcases perform_cases world call with ⟨hdoes, -⟩ | ⟨-, hsame⟩
  · exact hdoes.keeps hstocked hmeal
  · rw [hsame]
    exact ⟨hstocked, rfl⟩

/-- A meal takes one thing that can be eaten, or nothing happens. -/
theorem perform_eatFood (hstocked : world.Stocked) :
    ((world.perform .eatFood).result = .ok (.bool true) ∧
      (world.perform .eatFood).state.Stocked ∧
      ∃ item, Ate world (world.perform .eatFood).state item ∧
        (world.perform .eatFood).state.goods weightOf = world.goods weightOf - weightOf item) ∨
    ((world.perform .eatFood).result ≠ .ok (.bool true) ∧
      (world.perform .eatFood).state = world) := by
  have hstate : (world.perform .eatFood).state = (eatFood world).state := rfl
  have hresult : (world.perform .eatFood).result = (eatFood world).result.map .bool := rfl
  rw [hstate, hresult]
  rcases eatFood_spec world with ⟨hok, item, hitem, hafter⟩ | ⟨hfailed, hsame⟩
  · rw [hok, hafter]
    obtain ⟨hate, hgoods⟩ := ate_edible hstocked hitem ((foodPoints? item).getD 0)
    have hfed : ((world.take item 1).feed ((foodPoints? item).getD 0)).Stocked :=
      hstocked.take item 1
    exact .inl ⟨rfl, hfed.advance, item, hate, hgoods⟩
  · refine .inr ⟨fun hmap => hfailed ?_, hsame⟩
    cases hact : (eatFood world).result with
    | error fault =>
        rw [hact] at hmap
        exact nomatch hmap
    | ok value =>
        rw [hact] at hmap
        cases value with
        | false => exact nomatch hmap
        | true => rfl

/-! ## Runs -/

/-- Whether an operation is a meal, and one that succeeds. -/
def Operation.Feeds (operation : Operation) (world : World) : Prop :=
  operation = .call .eatFood ∧ (world.perform .eatFood).result = .ok (.bool true)

theorem apply_of_feeds (hstocked : world.Stocked) {operation : Operation}
    (h : operation.Feeds world) :
    (operation.apply world).Stocked ∧ ∃ item, Ate world (operation.apply world) item ∧
      (operation.apply world).goods weightOf = world.goods weightOf - weightOf item := by
  obtain ⟨rfl, hok⟩ := h
  rcases perform_eatFood hstocked with ⟨-, hdone⟩ | ⟨hfailed, -⟩
  · exact hdone
  · exact absurd hok hfailed

theorem keeps_apply (hstocked : world.Stocked) {operation : Operation}
    (h : ¬ operation.Feeds world) : Keeps world (operation.apply world) := by
  cases operation with
  | connect => exact keeps_of_same hstocked rfl rfl
  | disconnect => exact keeps_of_same hstocked rfl rfl
  | call request =>
      by_cases hmeal : request = .eatFood
      · subst hmeal
        rcases perform_eatFood hstocked with ⟨hok, -⟩ | ⟨-, hsame⟩
        · exact absurd ⟨rfl, hok⟩ h
        · have hstay : (Operation.call .eatFood).apply world = world := hsame
          rw [hstay]
          exact ⟨hstocked, rfl⟩
      · exact keeps_perform hstocked hmeal

theorem apply_step (hstocked : world.Stocked) (operation : Operation) :
    (operation.apply world).Stocked ∧
      (operation.apply world).goods weightOf ≤ world.goods weightOf := by
  by_cases hfeeds : operation.Feeds world
  · obtain ⟨hnext, item, -, hgoods⟩ := apply_of_feeds hstocked hfeeds
    have hpos := weightOf_pos item
    exact ⟨hnext, by omega⟩
  · obtain ⟨hnext, hgoods⟩ := keeps_apply hstocked hfeeds
    exact ⟨hnext, Int.le_of_eq hgoods⟩

theorem after_run (hstocked : world.Stocked) (operations : List Operation) :
    (world.after operations).Stocked ∧
      (world.after operations).goods weightOf ≤ world.goods weightOf := by
  induction operations generalizing world with
  | nil => exact ⟨hstocked, Int.le_refl _⟩
  | cons operation rest ih =>
      obtain ⟨hnext, hstep⟩ := apply_step hstocked operation
      obtain ⟨hlast, hrest⟩ := ih hnext
      exact ⟨hlast, Int.le_trans hrest hstep⟩

/-- There are weights, all positive, by which no run adds to the goods of a world: each operation
keeps them, but for a meal, which takes away what the one thing eaten weighs. -/
theorem goods_never_increase :
    ∃ weight : String → Int, (∀ name, 0 < weight name) ∧
      ∀ world : World, world.Stocked → ∀ operations : List Operation,
        (world.after operations).goods weight ≤ world.goods weight ∧
        ∀ operation : Operation,
          (operation.Feeds (world.after operations) →
            ∃ item, Ate (world.after operations) (operation.apply (world.after operations)) item ∧
              (operation.apply (world.after operations)).goods weight =
                (world.after operations).goods weight - weight item) ∧
          (¬ operation.Feeds (world.after operations) →
            (operation.apply (world.after operations)).goods weight =
              (world.after operations).goods weight) := by
  refine ⟨weightOf, weightOf_pos, fun world hstocked operations => ?_⟩
  obtain ⟨hreached, hgoods⟩ := after_run hstocked operations
  refine ⟨hgoods, fun operation => ⟨fun hfeeds => ?_, fun hkept => ?_⟩⟩
  · exact (apply_of_feeds hreached hfeeds).2
  · exact (keeps_apply hreached hkept).goods

theorem starter_goods_never_increase :
    World.starter.Stocked ∧
      ∃ weight : String → Int, (∀ name, 0 < weight name) ∧
        (World.starter.after [.connect, .call (.mineBlock "oak_log"), .call .eatFood]).goods
          weight ≤ World.starter.goods weight := by
  have hstocked : World.starter.Stocked := by decide
  obtain ⟨weight, hpos, hruns⟩ := goods_never_increase
  exact ⟨hstocked, weight, hpos, (hruns World.starter hstocked _).1⟩

end Rulebound.World
