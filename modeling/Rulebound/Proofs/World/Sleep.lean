import Rulebound.Proofs.Text.Pieces
import Rulebound.Proofs.World.Crafting

/-!
# Sleeping

The agent sleeps at night, near a block with the letters of a bed in its name. All other blocks are
as good as absent. A bed has these letters, but not everything that has them is a bed.
-/

namespace Rulebound.World

variable {world other : World} {passes : String → Bool}

/-! ## Beds -/

/-- Whether a name is that of a bed, with or without its kind. -/
def IsBed (block : String) : Prop :=
  block = "bed" ∨ "_bed".toList <:+ block.toList

instance (block : String) : Decidable (IsBed block) :=
  inferInstanceAs (Decidable (_ ∨ _))

/-- Whether a name has the letters of a bed in it, wherever they stand. -/
def namesBed (block : String) : Bool :=
  Text.contains block "bed"

theorem IsBed.namesBed {block : String} (h : IsBed block) : namesBed block = true := by
  refine Text.contains_iff.2 ?_
  rcases h with rfl | hkind
  · exact List.infix_refl _
  · have hname : "bed".toList <:+ "_bed".toList := by decide
    exact (hname.trans hkind).isInfix

/-! ## Finding one -/

def Finds (world : World) (passes : String → Bool) : Prop :=
  (∀ entry ∈ world.blocks.entries, passes entry.2 = true → entry.1.IsMeasurable) ∧
    ∃ entry ∈ world.blocks.entries, passes entry.2 = true ∧
      ∃ gap, entry.1.distanceFrom world.position = .ok gap ∧ searchRadius.lt gap = false

theorem exists_findBlock_iff_finds :
    (∃ coord, world.findBlock passes = .ok (some coord)) ↔ world.Finds passes := by
  unfold findBlock Finds
  rw [exists_findAux]
  simp only [Option.isSome_none, Bool.false_eq_true, false_or]

theorem findAux_filter (origin : Position) (best : Option (Binary64 × Coord))
    (entries : List (Coord × String)) :
    findAux origin passes best (entries.filter fun entry => passes entry.2) =
      findAux origin passes best entries := by
  induction entries generalizing best with
  | nil => rfl
  | cons entry rest ih =>
      by_cases hpasses : passes entry.2 = true
      · rw [List.filter_cons, if_pos hpasses]
        unfold findAux
        rw [if_pos hpasses, if_pos hpasses]
        cases entry.1.distanceFrom origin with
        | error fault => rfl
        | ok gap => exact ih (nearer best gap entry.1)
      · rw [List.filter_cons, if_neg hpasses, ih]
        conv => rhs; unfold findAux
        rw [if_neg hpasses]

/-- Two worlds agree about the blocks whose names pass a test, and about where the agent stands. -/
structure AgreeOn (passes : String → Bool) (world other : World) : Prop where
  position : other.position = world.position
  blocks : (other.blocks.entries.filter fun entry => passes entry.2) =
    world.blocks.entries.filter fun entry => passes entry.2

theorem AgreeOn.findBlock (h : AgreeOn passes world other) :
    other.findBlock passes = world.findBlock passes := by
  unfold World.findBlock
  rw [h.position, ← findAux_filter _ _ other.blocks.entries, h.blocks, findAux_filter]

def CanMeasureBeds (world : World) : Prop :=
  ∀ entry ∈ world.blocks.entries, IsBed entry.2 → entry.1.IsMeasurable

def HasNearBed (world : World) : Prop :=
  ∃ entry ∈ world.blocks.entries, IsBed entry.2 ∧
    ∃ gap, entry.1.distanceFrom world.position = .ok gap ∧ gap.le searchRadius = true

def NamesOnlyBeds (world : World) : Prop :=
  ∀ entry ∈ world.blocks.entries, namesBed entry.2 = true → IsBed entry.2

instance (world : World) : Decidable world.NamesOnlyBeds :=
  inferInstanceAs (Decidable (∀ entry ∈ world.blocks.entries, _))

instance (world : World) : Decidable world.CanMeasureBeds :=
  inferInstanceAs (Decidable (∀ entry ∈ world.blocks.entries, _))

/-- Where only beds have the letters of a bed, they are what is found. -/
theorem finds_iff_hasNearBed (hplace : world.position.IsPlace) (honly : world.NamesOnlyBeds) :
    world.Finds namesBed ↔ world.CanMeasureBeds ∧ world.HasNearBed := by
  have hnear : ∀ entry : Coord × String,
      (∃ gap, entry.1.distanceFrom world.position = .ok gap ∧ searchRadius.lt gap = false) ↔
        ∃ gap, entry.1.distanceFrom world.position = .ok gap ∧ gap.le searchRadius = true := by
    intro entry
    refine exists_congr fun gap => and_congr_right fun hgap => ?_
    rw [Binary64.lt_eq_not_le isNan_searchRadius (Coord.isNan_of_distanceFrom hplace hgap),
      Bool.not_eq_false']
  have hbed : ∀ entry ∈ world.blocks.entries, namesBed entry.2 = true ↔ IsBed entry.2 :=
    fun entry hmem => ⟨honly entry hmem, IsBed.namesBed⟩
  unfold Finds CanMeasureBeds HasNearBed
  simp only [hnear]
  constructor
  · rintro ⟨hmeasure, entry, hmem, hnames, hgap⟩
    exact ⟨fun entry hmem hthis => hmeasure entry hmem ((hbed entry hmem).2 hthis),
      entry, hmem, (hbed entry hmem).1 hnames, hgap⟩
  · rintro ⟨hmeasure, entry, hmem, hthis, hgap⟩
    exact ⟨fun entry hmem hnames => hmeasure entry hmem ((hbed entry hmem).1 hnames),
      entry, hmem, (hbed entry hmem).2 hthis, hgap⟩

/-! ## The whole operation -/

theorem sleep_result (world : World) :
    (world.perform .sleep).result = .ok (.bool true) ↔
      12000 ≤ world.time ∧ world.Finds namesBed := by
  have hact : (sleep world).result = .ok true ↔
      ∃ found, world.findBlock namesBed = .ok found ∧ found.isSome = true ∧
        12000 ≤ world.time := by
    unfold sleep
    rw [Act.result_find_eq_ok]
    refine exists_congr fun found => and_congr_right fun _ => ?_
    cases found with
    | none => exact ⟨nofun, nofun⟩
    | some bed =>
        rw [Act.result_look]
        by_cases htime : world.time < 12000
        · rw [if_pos htime]
          exact ⟨nofun, fun h => absurd htime (not_lt.2 h.2)⟩
        · rw [if_neg htime]
          exact ⟨fun _ => ⟨rfl, not_lt.1 htime⟩, fun _ => rfl⟩
  have hperform : world.perform .sleep = answer (sleep world) := rfl
  rw [hperform, answer_result, hact, ← exists_findBlock_iff_finds]
  constructor
  · rintro ⟨found, hfound, hsome, hnight⟩
    obtain ⟨bed, rfl⟩ := Option.isSome_iff_exists.1 hsome
    exact ⟨hnight, bed, hfound⟩
  · rintro ⟨hnight, bed, hfound⟩
    exact ⟨some bed, hfound, rfl, hnight⟩

/-- Worlds that agree about the blocks with the letters of a bed answer a sleeper alike. -/
theorem AgreeOn.sleep_alike (h : AgreeOn namesBed world other) (htime : other.time = world.time) :
    (other.perform .sleep).result = (world.perform .sleep).result ∧
      (other.perform .sleep).logs = (world.perform .sleep).logs := by
  have hfound : (other.findBlock fun block => Text.contains block "bed") =
      world.findBlock fun block => Text.contains block "bed" := h.findBlock
  unfold perform answer Outcome.map sleep
  simp only [Act.bind_eq, Act.andThen, Act.find, hfound]
  cases world.findBlock fun block => Text.contains block "bed" with
  | error fault => exact ⟨rfl, rfl⟩
  | ok found =>
      cases found with
      | none => exact ⟨rfl, rfl⟩
      | some bed =>
          simp only [Act.andThen, Act.look, htime]
          by_cases hearly : world.time < 12000
          · simp only [if_pos hearly]
            exact ⟨rfl, rfl⟩
          · simp only [if_neg hearly]
            exact ⟨rfl, rfl⟩

/-- Sleeping succeeds exactly if it is night, all blocks with the letters of a bed in their names
can be measured, and one of them is not beyond reach. Where only beds have these letters and the
agent stands somewhere, it is a bed that is within reach. No other block counts for anything. A
sleeper wakes in the morning; otherwise the world stays as it is. -/
theorem sleeps_by_name (world : World) :
    ((world.perform .sleep).result = .ok (.bool true) ↔
      12000 ≤ world.time ∧ world.Finds namesBed) ∧
    (world.position.IsPlace → world.NamesOnlyBeds →
      ((world.perform .sleep).result = .ok (.bool true) ↔
        12000 ≤ world.time ∧ world.CanMeasureBeds ∧ world.HasNearBed)) ∧
    (∀ other : World, AgreeOn namesBed world other → other.time = world.time →
      (other.perform .sleep).result = (world.perform .sleep).result ∧
        (other.perform .sleep).logs = (world.perform .sleep).logs) ∧
    ((world.perform .sleep).result = .ok (.bool true) →
      (world.perform .sleep).state = { world with time := 0 }) ∧
    ((world.perform .sleep).result ≠ .ok (.bool true) → (world.perform .sleep).state = world) := by
  refine ⟨sleep_result world, fun hplace honly => ?_, fun other h htime => h.sleep_alike htime,
    fun hok => ?_, fun hfailed => ?_⟩
  · rw [sleep_result, finds_iff_hasNearBed hplace honly]
  · obtain ⟨-, -, hafter⟩ := (sleep_spec world).done_of_ok (answer_result.1 hok)
    exact hafter
  · exact (sleep_spec world).state_eq fun hok => hfailed (answer_result.2 hok)

/-- A bed within reach is slept beside, though another one is too far away. -/
theorem bed_slept_beside :
    let blocks : List (Coord × String) := [(⟨40, 64, 0⟩, "bed"), (⟨3, 64, 0⟩, "red_bed")]
    let world : World := { blocks := .ofList blocks, time := 13000 }
    world.NamesOnlyBeds ∧ (world.perform .sleep).result = .ok (.bool true) ∧
      (world.perform .sleep).state.time = 0 := by
  intro blocks world
  have hplace : world.position.IsPlace := by decide +kernel
  have honly : world.NamesOnlyBeds := by decide
  have hgap : Coord.distanceFrom world.position ⟨3, 64, 0⟩ =
      .ok (world.position.distance ⟨3, 64, 0⟩) := by decide +kernel
  obtain ⟨-, hbeds, -, hwakes, -⟩ := sleeps_by_name world
  have hnear : world.HasNearBed :=
    ⟨_, .tail _ (.head _), by decide, _, hgap, by decide +kernel⟩
  have hok := (hbeds hplace honly).2 ⟨by decide, by decide +kernel, hnear⟩
  exact ⟨honly, hok, by rw [hwakes hok]⟩

/-- Bedrock is no bed, and is slept beside. -/
theorem bedrock_slept_beside :
    ¬ ∀ world : World, (world.perform .sleep).result = .ok (.bool true) ↔
      12000 ≤ world.time ∧ world.HasNearBed := by
  intro h
  let world : World := { blocks := .ofList [(⟨1, 64, 0⟩, "bedrock")], time := 13000 }
  have hgap : Coord.distanceFrom world.position ⟨1, 64, 0⟩ =
      .ok (world.position.distance ⟨1, 64, 0⟩) := by decide +kernel
  have hfinds : world.Finds namesBed :=
    ⟨by decide +kernel, _, .head _, by decide, _, hgap, by decide +kernel⟩
  obtain ⟨-, entry, hmem, hbed, -⟩ := (h world).1 ((sleep_result world).2 ⟨by decide, hfinds⟩)
  have hnone : ∀ entry ∈ world.blocks.entries, ¬ IsBed entry.2 := by decide
  exact hnone entry hmem hbed

end Rulebound.World
