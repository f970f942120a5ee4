import Rulebound.Proofs.World.Conservation
import Rulebound.Proofs.World.Run

/-!
# Ores out of reach

The two best pickaxes cannot be made, and no block becomes one. An agent that has none of them, and
finds none among the blocks, never gets one; and without them the hardest ores cannot be broken.
-/

namespace Rulebound.World

variable {world after : World} {call : Call} {item : String}

/-- The tools without which the hardest ores cannot be broken. -/
def bestPickaxes : List String :=
  ["iron_pickaxe", "diamond_pickaxe"]

def hardestOres : List String :=
  ["gold_ore", "diamond_ore", "redstone_ore", "emerald_ore"]

structure Lacks (world : World) (item : String) : Prop where
  carried : world.inventory.get? item = none
  placed : ∀ coord, world.blocks.get? coord ≠ some item

theorem lacks_iff : world.Lacks item ↔ item ∉ world.inventory.entries.map Prod.fst ∧
    item ∉ world.blocks.entries.map Prod.snd := by
  constructor
  · intro h
    constructor
    · intro hmem
      obtain ⟨entry, hentry, rfl⟩ := List.mem_map.1 hmem
      have hget : world.inventory.get? entry.1 = some entry.2 := Table.get?_eq_some.2 hentry
      rw [h.carried] at hget
      exact nomatch hget
    · intro hmem
      obtain ⟨entry, hentry, rfl⟩ := List.mem_map.1 hmem
      exact h.placed entry.1 (Table.get?_eq_some.2 hentry)
  · rintro ⟨hcarried, hplaced⟩
    constructor
    · exact Table.lookup?_eq_none hcarried
    · intro coord hget
      exact hplaced (List.mem_map_of_mem (Table.get?_eq_some.1 hget))

instance (world : World) (item : String) : Decidable (world.Lacks item) :=
  decidable_of_iff _ lacks_iff.symm

theorem Lacks.of_same (h : world.Lacks item) (hinventory : after.inventory = world.inventory)
    (hblocks : after.blocks = world.blocks) : after.Lacks item where
  carried := hinventory ▸ h.carried
  placed := hblocks ▸ h.placed

theorem Lacks.countOf (h : world.Lacks item) : world.countOf item = 0 := by
  unfold World.countOf
  rw [h.carried]
  rfl

/-! ## Things that are never obtained -/

/-- Nothing makes a thing, and nothing uses it up. -/
structure IsForeign (item : String) : Prop where
  not_made : recipe? item = none
  not_dropped : ∀ drop ∈ drops, drop.2 ≠ item
  not_used : ∀ made ∈ recipes, ∀ ingredient ∈ made.2.ingredients, ingredient.1 ≠ item
  not_eaten : foodPoints? item = none

theorem isForeign_of_mem (h : item ∈ bestPickaxes) : IsForeign item := by
  have hnames : item = "iron_pickaxe" ∨ item = "diamond_pickaxe" := by
    simpa [bestPickaxes] using h
  rcases hnames with rfl | rfl
  all_goals exact ⟨by decide, by decide, by decide, by decide⟩

theorem dropOf_ne (h : IsForeign item) {block : String} (hne : block ≠ item) :
    dropOf block ≠ item := by
  unfold dropOf
  cases hdrop : drops.lookup block with
  | none => exact hne
  | some drop => exact h.not_dropped _ (mem_of_lookup hdrop)

theorem get?_takeAll_of_ne {ingredients : List (String × Int)}
    (h : ∀ ingredient ∈ ingredients, ingredient.1 ≠ item) :
    (world.takeAll ingredients).inventory.get? item = world.inventory.get? item := by
  induction ingredients generalizing world with
  | nil => rfl
  | cons ingredient rest ih =>
      have hfirst : (world.take ingredient.1 ingredient.2).inventory.get? item =
          world.inventory.get? item := by
        rw [get?_take, if_neg (h ingredient List.mem_cons_self)]
      rw [← hfirst]
      exact ih fun other hother => h other (List.mem_cons_of_mem _ hother)

/-- No call brings a thing that nothing makes into a world that lacks it. -/
theorem Does.lacks (h : Does world call after) (hforeign : IsForeign item)
    (hlacks : world.Lacks item) : after.Lacks item := by
  cases h with
  | moved _ hwent => exact hlacks.of_same hwent.inventory hwent.blocks
  | went hwent => exact hlacks.of_same hwent.inventory hwent.blocks
  | @mined name coord hfound hbreak =>
      obtain ⟨block, hblock, hname⟩ := findBlock_get? hfound
      have hsame : block = name := by simpa using hname
      subst hsame
      have hne : block ≠ item := fun heq => hlacks.placed coord (heq ▸ hblock)
      constructor
      · rw [advance_inventory, get?_give, if_neg (dropOf_ne hforeign hne)]
        exact hlacks.carried
      · intro place hplace
        rw [advance_blocks] at hplace
        have hcleared : (world.blocks.erase coord).get? place = some item := hplace
        rw [Table.get?_erase] at hcleared
        split at hcleared
        · exact nomatch hcleared
        · exact hlacks.placed place hcleared
  | hit => exact hlacks.of_same (advance_inventory _) (advance_blocks _)
  | @made name recipe hknown htable henough =>
      have hne : name ≠ item := by
        rintro rfl
        rw [hforeign.not_made] at hknown
        exact nomatch hknown
      constructor
      · rw [advance_inventory, get?_give, if_neg hne,
          get?_takeAll_of_ne (hforeign.not_used _ (mem_of_lookup hknown))]
        exact hlacks.carried
      · rw [advance_blocks]
        exact takeAll_blocks world recipe.ingredients ▸ hlacks.placed
  | @placed name block hhere hcarried hfree =>
      have hne : name ≠ item := by
        rintro rfl
        rw [hlacks.countOf] at hcarried
        exact absurd hcarried (by decide)
      constructor
      · rw [advance_inventory, get?_take, if_neg hne]
        exact hlacks.carried
      · intro place hplace
        rw [advance_blocks] at hplace
        have hbuilt : (world.blocks.insert ⟨block.x + 1, block.y, block.z⟩ name).get? place =
            some item := hplace
        rw [Table.get?_insert] at hbuilt
        split at hbuilt
        · exact hne (Option.some.inj hbuilt)
        · exact hlacks.placed place hbuilt
  | @ate food hedible =>
      have hpoints : (foodPoints? food).isSome = true :=
        List.find?_some (p := fun item => (foodPoints? item).isSome) hedible
      have hne : food ≠ item := by
        rintro rfl
        rw [hforeign.not_eaten] at hpoints
        exact Bool.noConfusion hpoints
      constructor
      · rw [advance_inventory]
        have htaken : (world.take food 1).inventory.get? item = none := by
          rw [get?_take, if_neg hne]
          exact hlacks.carried
        exact htaken
      · rw [advance_blocks]
        exact hlacks.placed
  | slept => exact hlacks.of_same rfl rfl
  | said => exact hlacks.of_same rfl rfl
  | looked => exact hlacks.of_same rfl rfl

/-! ## Blocks that are never broken -/

theorem pickaxeRank_le (h : ∀ tool ∈ bestPickaxes, world.Lacks tool) : world.pickaxeRank ≤ 2 := by
  have hiron : world.countOf "iron_pickaxe" = 0 := (h _ (.head _)).countOf
  have hdiamond : world.countOf "diamond_pickaxe" = 0 := (h _ (.tail _ (.head _))).countOf
  have hreverse : pickaxes.reverse =
      ["diamond_pickaxe", "iron_pickaxe", "stone_pickaxe", "wooden_pickaxe"] := rfl
  unfold pickaxeRank
  rw [hreverse, List.dropWhile_cons_of_pos (by simp [hdiamond]),
    List.dropWhile_cons_of_pos (by simp [hiron])]
  exact List.Sublist.length_le (List.dropWhile_sublist _)

theorem canBreak_eq_false (h : ∀ tool ∈ bestPickaxes, world.Lacks tool) {ore : String}
    (hore : ore ∈ hardestOres) : world.canBreak ore = false := by
  have htiers : ∀ ore ∈ hardestOres, tierOf? ore = some 2 := by decide
  have hrank := pickaxeRank_le h
  unfold canBreak
  rw [htiers ore hore]
  exact decide_eq_false (by omega)

/-- A block that cannot be broken stays where it is. -/
theorem Does.block_stays (h : Does world call after) {coord : Coord} {block : String}
    (hbreak : world.canBreak block = false) (hblock : world.blocks.get? coord = some block) :
    after.blocks.get? coord = some block := by
  cases h with
  | moved _ hwent => rw [hwent.blocks, hblock]
  | went hwent => rw [hwent.blocks, hblock]
  | @mined name place hfound hbreaks =>
      obtain ⟨found, hget, hname⟩ := findBlock_get? hfound
      have hsame : found = name := by simpa using hname
      have hne : place ≠ coord := by
        rintro rfl
        obtain rfl := Option.some.inj (hblock.symm.trans hget)
        rw [hsame, hbreaks] at hbreak
        exact Bool.noConfusion hbreak
      have hcleared : (world.blocks.erase place).get? coord = some block := by
        rw [Table.get?_erase, if_neg hne, hblock]
      rw [advance_blocks]
      exact hcleared
  | hit => rw [advance_blocks, hblock]
  | made => rw [advance_blocks]; exact takeAll_blocks world _ ▸ hblock
  | @placed name here hhere hcarried hfree =>
      have hne : (⟨here.x + 1, here.y, here.z⟩ : Coord) ≠ coord := by
        rintro rfl
        rw [Table.contains_eq_false.1 hfree] at hblock
        exact nomatch hblock
      have hbuilt : (world.blocks.insert ⟨here.x + 1, here.y, here.z⟩ name).get? coord =
          some block := by
        rw [Table.get?_insert, if_neg hne, hblock]
      rw [advance_blocks]
      exact hbuilt
  | ate => rw [advance_blocks]; exact hblock
  | slept => exact hblock
  | said => exact hblock
  | looked => exact hblock

/-! ## Runs and courses -/

/-- The best pickaxes are nowhere, and each of the hardest ores is where it was at the start. -/
structure OutOfReach (start world : World) : Prop where
  lacks : ∀ tool ∈ bestPickaxes, world.Lacks tool
  stays : ∀ coord, ∀ ore ∈ hardestOres, start.blocks.get? coord = some ore →
    world.blocks.get? coord = some ore

theorem isLasting_outOfReach (start : World) : IsLasting (OutOfReach start) where
  does hdoes h := {
    lacks := fun tool htool => hdoes.lacks (isForeign_of_mem htool) (h.lacks tool htool)
    stays := fun coord ore hore hstart =>
      hdoes.block_stays (canBreak_eq_false h.lacks hore) (h.stays coord ore hore hstart) }
  connected _ h := {
    lacks := fun tool htool => (h.lacks tool htool).of_same rfl rfl
    stays := h.stays }

/-- Where the best pickaxes are nowhere at the start, no run of operations and no course of turns
ever brings one forth, and every one of the hardest ores stays where it is. -/
theorem ores_out_of_reach [Json.Nesting] {start : World}
    (h : ∀ tool ∈ bestPickaxes, start.Lacks tool) :
    (∀ operations, OutOfReach start (start.after operations)) ∧
    ∀ (γ : Type) (agent : Cycle.Agent (World × Nat) γ) (obstacle? : Nat → Option Fault)
      (conditions : Cycle.Conditions) (limit : Nat) (state : Cycle.State (World × Nat) γ)
      (before : List Event), agent.body = World.body.obstructed obstacle? →
      state.world.1 = start →
      ∀ turn ∈ (agent.course conditions limit state before).turns,
        OutOfReach start turn.state.world.1 := by
  have hstart : OutOfReach start start := ⟨h, fun _ _ _ hget => hget⟩
  constructor
  · exact (isLasting_outOfReach start).after hstart
  · intro γ agent obstacle? conditions limit state before hbody hworld
    exact Cycle.Agent.course_lasting (isLasting_outOfReach start) hbody conditions limit
      (hworld.symm ▸ hstart) before

def twoOres : World where
  blocks := .ofList [(⟨1, 64, 0⟩, "diamond_ore"), (⟨2, 64, 0⟩, "iron_ore")]
  inventory := .ofList [("stone_pickaxe", 1)]

section Mined

attribute [local instance] Json.Nesting.usual

theorem diamond_ore_stays :
    let start := Cycle.Agent.scriptedStart twoOres
      ["ACTION: mine diamond ore", "ACTION: mine iron ore"] []
    (∀ tool ∈ bestPickaxes, twoOres.Lacks tool) ∧
      (twoOres.after [.call (.mineBlock "diamond_ore"), .call (.mineBlock "iron_ore")]).blocks.get?
        ⟨1, 64, 0⟩ = some "diamond_ore" ∧
      ∃ turn ∈ (Cycle.Agent.scripted.course {} 2 start []).turns,
        turn.state.world.1.countOf "iron_ore" = 1 ∧
          turn.state.world.1.blocks.get? ⟨1, 64, 0⟩ = some "diamond_ore" := by
  intro start
  have hlacks : ∀ tool ∈ bestPickaxes, twoOres.Lacks tool := by decide
  have hhere : twoOres.blocks.get? ⟨1, 64, 0⟩ = some "diamond_ore" := by decide
  obtain ⟨hruns, hcourses⟩ := ores_out_of_reach hlacks
  have hbody : Cycle.Agent.scripted.body = World.body.obstructed fun _ => none := rfl
  have hturns := hcourses Script Cycle.Agent.scripted _ {} 2 start [] hbody rfl
  have hmined : ∃ turn ∈ (Cycle.Agent.scripted.course {} 2 start []).turns,
      turn.state.world.1.countOf "iron_ore" = 1 := by
    decide +kernel
  obtain ⟨turn, hturn, hcount⟩ := hmined
  have hore : "diamond_ore" ∈ hardestOres := by decide
  exact ⟨hlacks, (hruns _).stays _ _ hore hhere, turn, hturn, hcount,
    (hturns turn hturn).stays _ _ hore hhere⟩

end Mined

end Rulebound.World
