import Rulebound.Proofs.World.Conservation
import Rulebound.Proofs.World.Nearest

/-!
# What is mined

Of the blocks of a name, the nearest is taken, and of equally near ones the one that was there
first. All other blocks stay in their order, and of what is carried only what the block becomes is
one more.
-/

namespace Rulebound.World

variable {world : World} {origin : Position} {name : String}

/-! ## Finding the block -/

theorem isNan_searchRadius : searchRadius.isNan = false := by
  have hsame : searchRadius = Binary64.ofInt 32 := rfl
  rw [hsame]
  exact Binary64.isNan_of_value? (Binary64.value?_ofInt (by decide))

theorem nearer_eq {gap : Binary64} (hgap : gap.isNan = false) (best : Option (Binary64 × Coord))
    (coord : Coord) :
    nearer best gap coord =
      if gap.le searchRadius && isCloser gap best then some (gap, coord) else best := by
  unfold nearer
  rw [Binary64.lt_eq_not_le isNan_searchRadius hgap]
  cases gap.le searchRadius with
  | false => rfl
  | true => cases best <;> rfl

def blockDistance (origin : Position) (entry : Coord × String) : Except Fault Binary64 :=
  entry.1.distanceFrom origin

/-- How far a block is whose name passes a test, if it is within reach. -/
def blockGap? (passes : String → Bool) (origin : Position) : Coord × String → Option Binary64 :=
  reached? (fun entry => passes entry.2) (blockDistance origin) searchRadius

/-- Blocks are looked through without a fault exactly if all of them whose names pass the test can
be measured, and then the first of the nearest is found. -/
theorem findAux_eq_ok (horigin : origin.IsPlace) {passes : String → Bool}
    {entries : List (Coord × String)} (best : Option (Binary64 × Coord × String))
    {found : Option Coord} :
    findAux origin passes (labelled Prod.fst best) entries = .ok found ↔
      (∀ entry ∈ entries, passes entry.2 = true → entry.1.IsMeasurable) ∧
        (labelled Prod.fst (entries.foldl (better (blockGap? passes origin)) best)).map Prod.snd =
          found := by
  induction entries generalizing best with
  | nil => simp only [findAux, Except.ok.injEq, List.not_mem_nil, false_imp_iff, implies_true,
      true_and, List.foldl_nil]
  | cons entry rest ih =>
      unfold findAux
      rw [List.forall_mem_cons, List.foldl_cons]
      by_cases hpasses : passes entry.2 = true
      · rw [if_pos hpasses]
        cases hgap : entry.1.distanceFrom origin with
        | error fault =>
            simp only [hpasses, Coord.not_isMeasurable_of_error hgap, true_imp_iff, false_and,
              bind, Except.bind, reduceCtorEq]
        | ok gap =>
            have hnext := ih (better (blockGap? passes origin) best entry)
            unfold blockGap? at hnext
            rw [labelled_better (fun entry => passes entry.2) (blockDistance origin) searchRadius
              Prod.fst entry hpasses hgap best,
              ← nearer_eq (Coord.isNan_of_distanceFrom horigin hgap)] at hnext
            simp only [Coord.isMeasurable_of_ok hgap, implies_true, true_and]
            exact hnext
      · have hsame : better (blockGap? passes origin) best entry = best :=
          better_of_not_counts (fun entry : Coord × String => passes entry.2) _ _ hpasses best
        rw [if_neg hpasses, hsame]
        simp only [hpasses, Bool.false_eq_true, false_imp_iff, true_and]
        exact ih best

/-- The block of a name that is the nearest among all blocks of a world. -/
def IsNearestBlock (world : World) (name : String) (earlier : List (Coord × String))
    (coord : Coord) (later : List (Coord × String)) : Prop :=
  NearestOf (fun entry => entry.2 == name) (blockDistance world.position) searchRadius earlier
    (coord, name) later

def CanMeasure (world : World) (name : String) : Prop :=
  ∀ entry ∈ world.blocks.entries, entry.2 = name → entry.1.IsMeasurable

instance (world : World) (name : String) : Decidable (world.CanMeasure name) :=
  inferInstanceAs (Decidable (∀ entry ∈ world.blocks.entries, _))

def HasNear (world : World) (name : String) : Prop :=
  ∃ entry ∈ world.blocks.entries, entry.2 = name ∧
    ∃ gap, entry.1.distanceFrom world.position = .ok gap ∧ gap.le searchRadius = true

theorem hasNear_iff_any : world.HasNear name ↔ (world.blocks.entries.any fun entry =>
    (blockGap? (· == name) world.position entry).isSome) = true := by
  simp only [HasNear, List.any_eq_true, Option.isSome_iff_exists, blockGap?, reached?_eq_some,
    blockDistance, beq_iff_eq, exists_and_left]

instance (world : World) (name : String) : Decidable (world.HasNear name) :=
  decidable_of_iff _ hasNear_iff_any.symm

theorem canMeasure_iff : world.CanMeasure name ↔
    ∀ entry ∈ world.blocks.entries, (entry.2 == name) = true → entry.1.IsMeasurable := by
  simp only [CanMeasure, beq_iff_eq]

theorem findBlock_eq_some (hplace : world.position.IsPlace) {coord : Coord}
    (h : world.findBlock (· == name) = .ok (some coord)) :
    world.CanMeasure name ∧ ∃ earlier later,
      world.blocks.entries = earlier ++ (coord, name) :: later ∧
        world.IsNearestBlock name earlier coord later := by
  obtain ⟨hmeasure, hfound⟩ := (findAux_eq_ok hplace none).1 h
  refine ⟨canMeasure_iff.2 hmeasure, ?_⟩
  unfold blockGap? at hfound
  rcases search_spec (fun entry => entry.2 == name)
      (blockDistance world.position) searchRadius world.blocks.entries with
    ⟨earlier, ⟨place, block⟩, later, gap, hsplit, hbest, hnearest⟩ | ⟨hbest, -⟩
  · have hname : block = name := beq_iff_eq.1 hnearest.is_counted
    rw [hbest] at hfound
    have hplace : place = coord := Option.some.inj hfound
    subst hname hplace
    exact ⟨earlier, later, hsplit, hnearest⟩
  · rw [hbest] at hfound
    exact nomatch hfound

theorem exists_findBlock (hplace : world.position.IsPlace) :
    (∃ coord, world.findBlock (· == name) = .ok (some coord)) ↔
      world.CanMeasure name ∧ world.HasNear name := by
  constructor
  · rintro ⟨coord, hcoord⟩
    obtain ⟨hmeasure, earlier, later, hsplit, hnearest⟩ := findBlock_eq_some hplace hcoord
    obtain ⟨gap, hgap, hreach, -⟩ := hnearest.is_nearest
    have hmem : (coord, name) ∈ world.blocks.entries := by simp [hsplit]
    exact ⟨hmeasure, (coord, name), hmem, rfl, gap, hgap, hreach⟩
  · rintro ⟨hmeasure, entry, hmem, hname, gap, hgap, hreach⟩
    rcases search_spec (fun entry => entry.2 == name)
        (blockDistance world.position) searchRadius world.blocks.entries with
      ⟨earlier, item, later, least, hsplit, hbest, hnearest⟩ | ⟨-, hfar⟩
    · refine ⟨item.1, (findAux_eq_ok hplace none).2 ⟨canMeasure_iff.1 hmeasure, ?_⟩⟩
      unfold blockGap?
      rw [hbest]
      rfl
    · rw [hfar entry hmem (beq_iff_eq.2 hname) gap hgap] at hreach
      exact nomatch hreach

/-! ## Tools -/

/-- What remains of a list after its last items were dropped reaches beyond a place exactly if some
item from there on is kept. -/
theorem lt_length_rdropWhile {α : Type} {p : α → Bool} {items : List α} {place : Nat} :
    place < (items.rdropWhile p).length ↔
      ∃ later item, place ≤ later ∧ items[later]? = some item ∧ p item = false := by
  induction items using List.reverseRecOn with
  | nil => simp
  | append_singleton items last ih =>
      rw [List.rdropWhile_concat]
      by_cases hdrop : p last = true
      · rw [if_pos hdrop, ih]
        constructor
        · rintro ⟨later, item, hle, hitem, hkeep⟩
          have hlater := (List.getElem?_eq_some_iff.1 hitem).1
          exact ⟨later, item, hle, (List.getElem?_append_left hlater).trans hitem, hkeep⟩
        · rintro ⟨later, item, hle, hitem, hkeep⟩
          rcases Nat.lt_or_ge later items.length with hold | hnew
          · exact ⟨later, item, hle, (List.getElem?_append_left hold).symm.trans hitem, hkeep⟩
          · rw [List.getElem?_append_right hnew] at hitem
            have hlast := List.mem_singleton.1 (List.mem_of_getElem? hitem)
            rw [hlast, hdrop] at hkeep
            exact nomatch hkeep
      · rw [if_neg hdrop, List.length_append, List.length_singleton]
        constructor
        · intro hlt
          exact ⟨items.length, last, by omega, by simp, by simpa using hdrop⟩
        · rintro ⟨later, item, hle, hitem, -⟩
          have hlater := (List.getElem?_eq_some_iff.1 hitem).1
          rw [List.length_append, List.length_singleton] at hlater
          omega

def Breaks (world : World) (block : String) : Prop :=
  ∀ tier, tierOf? block = some tier → ∃ rank tool, tier ≤ rank ∧ pickaxes[rank]? = some tool ∧
    0 < world.countOf tool

theorem canBreak_iff {block : String} : world.canBreak block = true ↔ world.Breaks block := by
  unfold canBreak Breaks
  cases htier : tierOf? block with
  | none => simp
  | some tier =>
      have hrank : world.pickaxeRank =
          (pickaxes.rdropWhile fun tool => decide (world.countOf tool ≤ 0)).length := by
        rw [pickaxeRank, List.rdropWhile, List.length_reverse]
      simp only [hrank, decide_eq_true_eq, lt_length_rdropWhile, Option.some.injEq,
        forall_eq', decide_eq_false_iff_not, Int.not_le]

instance (world : World) (block : String) : Decidable (world.Breaks block) :=
  decidable_of_iff _ canBreak_iff

/-! ## The whole operation -/

theorem mineBlock_result (name : String) (world : World) :
    (world.perform (.mineBlock name)).result = .ok (.bool true) ↔
      (∃ coord, world.findBlock (· == name) = .ok (some coord)) ∧ world.canBreak name = true := by
  have hact : (mineBlock name world).result = .ok true ↔
      ∃ found, world.findBlock (· == name) = .ok found ∧ found.isSome = true ∧
        world.canBreak name = true := by
    unfold mineBlock
    rw [Act.result_find_eq_ok]
    refine exists_congr fun found => and_congr_right fun _ => ?_
    cases found with
    | none => exact ⟨nofun, nofun⟩
    | some coord =>
        rw [Act.result_look]
        by_cases hbreak : world.canBreak name = true
        · rw [if_pos hbreak]
          exact ⟨fun _ => ⟨rfl, hbreak⟩, fun _ => rfl⟩
        · rw [if_neg hbreak]
          exact ⟨nofun, fun h => absurd h.2 hbreak⟩
  have hperform : world.perform (.mineBlock name) = answer (mineBlock name world) := rfl
  rw [hperform, answer_result, hact]
  constructor
  · rintro ⟨found, hfound, hsome, hbreak⟩
    obtain ⟨coord, rfl⟩ := Option.isSome_iff_exists.1 hsome
    exact ⟨⟨coord, hfound⟩, hbreak⟩
  · rintro ⟨⟨coord, hfound⟩, hbreak⟩
    exact ⟨some coord, hfound, rfl, hbreak⟩

/-- One block of a name was taken, the first of the nearest, and what it becomes was given. -/
structure Mined (world after : World) (name : String) (earlier : List (Coord × String))
    (coord : Coord) (later : List (Coord × String)) : Prop where
  was_there : world.blocks.entries = earlier ++ (coord, name) :: later
  is_nearest : world.IsNearestBlock name earlier coord later
  is_gone : after.blocks.entries = earlier ++ later
  given : after.countOf (dropOf name) = world.countOf (dropOf name) + 1
  others : ∀ item, item ≠ dropOf name → after.inventory.get? item = world.inventory.get? item

/-- Mining succeeds exactly if all blocks of the name can be measured, one of them is within reach,
and the agent carries a tool that breaks it. Then the first of the nearest is mined. -/
theorem mining_takes_nearest (world : World) (name : String) (hplace : world.position.IsPlace) :
    ((world.perform (.mineBlock name)).result = .ok (.bool true) ↔
      world.CanMeasure name ∧ world.HasNear name ∧ world.Breaks name) ∧
    ((world.perform (.mineBlock name)).result = .ok (.bool true) →
      ∃ earlier coord later,
        Mined world (world.perform (.mineBlock name)).state name earlier coord later) := by
  constructor
  · rw [mineBlock_result, exists_findBlock hplace, canBreak_iff, and_assoc]
  · intro hok
    have hact : (mineBlock name world).result = .ok true := answer_result.1 hok
    obtain ⟨coord, hfound, -, hafter⟩ := (mineBlock_spec name world).done_of_ok hact
    obtain ⟨-, earlier, later, hsplit, hnearest⟩ := findBlock_eq_some hplace hfound
    have hstate : (world.perform (.mineBlock name)).state =
        ((world.clear coord).give (dropOf name) 1).advance := hafter
    refine ⟨earlier, coord, later, hsplit, hnearest, ?_, ?_, fun item hitem => ?_⟩
    · rw [hstate, advance_blocks]
      have hnodup := world.blocks.nodup
      rw [hsplit] at hnodup
      change Table.dropKey world.blocks.entries coord = _
      rw [hsplit, Table.dropKey_append_cons hnodup]
    · rw [hstate, countOf, advance_inventory, get?_give, if_pos rfl]
      rfl
    · rw [hstate, advance_inventory, get?_give, if_neg (Ne.symm hitem)]
      rfl

/-- Two of three logs are equally near; the one that was there before the other is taken. -/
theorem nearest_log_is_taken :
    let logs : List Coord := [⟨2, 64, 0⟩, ⟨1, 64, 0⟩, ⟨0, 64, 0⟩]
    let world : World := { blocks := .ofList (logs.map fun coord => (coord, "oak_log")) }
    world.position.IsPlace ∧ (world.perform (.mineBlock "oak_log")).result = .ok (.bool true) ∧
      (world.perform (.mineBlock "oak_log")).state.blocks.contains ⟨1, 64, 0⟩ = false ∧
      ∃ earlier coord later, Mined world (world.perform (.mineBlock "oak_log")).state "oak_log"
        earlier coord later := by
  intro logs world
  have hplace : world.position.IsPlace := by decide +kernel
  obtain ⟨hresult, hmined⟩ := mining_takes_nearest world "oak_log" hplace
  have hok := hresult.2 ⟨by decide +kernel, by decide +kernel, by decide +kernel⟩
  exact ⟨hplace, hok, by decide +kernel, hmined hok⟩

/-- A block that is too far away to be measured keeps a near one from being mined. -/
theorem far_log_keeps_near_log :
    ¬ ∀ (world : World) (name : String), world.position.IsPlace →
      ((world.perform (.mineBlock name)).result = .ok (.bool true) ↔
        world.HasNear name ∧ world.Breaks name) := by
  intro h
  let world : World :=
    { blocks := .ofList [(⟨1, 64, 0⟩, "oak_log"), (⟨10 ^ 309, 64, 0⟩, "oak_log")] }
  have hplace : world.position.IsPlace := by decide +kernel
  have hok := (h world "oak_log" hplace).2 ⟨by decide +kernel, by decide +kernel⟩
  obtain ⟨hmeasured, -⟩ := (exists_findBlock hplace).1 ((mineBlock_result "oak_log" world).1 hok).1
  have hnot : ¬ world.CanMeasure "oak_log" := by decide +kernel
  exact hnot hmeasured

end Rulebound.World
