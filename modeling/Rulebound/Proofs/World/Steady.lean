import Rulebound.Proofs.Dispatch
import Rulebound.Proofs.Number.Finite
import Rulebound.Proofs.World.Beings
import Rulebound.Proofs.World.Nearest
import Rulebound.Proofs.World.Standing

/-!
# No fault in a measurable world

The operations of an agent can meet a fault only where a coordinate is no number. An agent that
starts at a finite place among things with measurable coordinates never comes to such a place: it
is sent to finite points only, where it goes it stands in the middle of a block, and what it builds
is built next to it.
-/

namespace Rulebound

open Binary64

/-! ## Finite points and measurable blocks -/

/-- Steps of the agent are small beside the gaps between large numbers. -/
theorem isFinite_add_small {a b : Binary64} {q : ℚ} (ha : a.isFinite = true)
    (hb : b.value? = some q) (hq : |q| ≤ 5) : (a + b).isFinite = true := by
  have hfive : ((5 : ℕ) : ℚ) < pow2 970 := Nat.cast_lt.2 (by decide +kernel)
  rw [Nat.cast_ofNat] at hfive
  exact isFinite_add ha hb (hq.trans_lt hfive)

namespace Position

structure IsFinite (p : Position) : Prop where
  x : p.x.isFinite = true
  y : p.y.isFinite = true
  z : p.z.isFinite = true

theorem isFinite_iff {p : Position} : p.IsFinite ↔
    p.x.isFinite = true ∧ p.y.isFinite = true ∧ p.z.isFinite = true :=
  ⟨fun h => ⟨h.x, h.y, h.z⟩, fun h => ⟨h.1, h.2.1, h.2.2⟩⟩

instance (p : Position) : Decidable p.IsFinite :=
  decidable_of_iff _ isFinite_iff.symm

theorem IsFinite.exists_block {p : Position} (h : p.IsFinite) : ∃ block, p.block = .ok block := by
  obtain ⟨x, hx⟩ := Binary64.isFinite_iff.1 h.x
  obtain ⟨y, hy⟩ := Binary64.isFinite_iff.1 h.y
  obtain ⟨z, hz⟩ := Binary64.isFinite_iff.1 h.z
  exact ⟨_, block_of_values hx hy hz⟩

end Position

namespace Coord

variable {coord : Coord} {point : Position}

structure InRange (coord : Coord) : Prop where
  x : coord.x.natAbs ≤ greatest
  y : coord.y.natAbs ≤ greatest
  z : coord.z.natAbs ≤ greatest

theorem inRange_of_block (h : point.block = .ok coord) : coord.InRange := by
  obtain ⟨x, y, z, hx, hy, hz, rfl⟩ := Position.values_of_block h
  exact ⟨natAbs_floor_le hx, natAbs_floor_le hy, natAbs_floor_le hz⟩

theorem isMeasurable_iff : coord.IsMeasurable ↔
    (ofInt coord.x).isFinite = true ∧ (ofInt coord.y).isFinite = true ∧
      (ofInt coord.z).isFinite = true := by
  unfold IsMeasurable corner? ofInt?
  cases (ofInt coord.x).isFinite <;> cases (ofInt coord.y).isFinite <;>
    cases (ofInt coord.z).isFinite <;> simp

theorem InRange.isMeasurable (h : coord.InRange) : coord.IsMeasurable :=
  isMeasurable_iff.2 ⟨isFinite_ofInt_of_le h.x, isFinite_ofInt_of_le h.y, isFinite_ofInt_of_le h.z⟩

theorem InRange.isMeasurable_east (h : coord.InRange) :
    IsMeasurable ⟨coord.x + 1, coord.y, coord.z⟩ := by
  rw [isMeasurable_iff]
  dsimp only
  exact ⟨isFinite_ofInt_succ h.x, isFinite_ofInt_of_le h.y, isFinite_ofInt_of_le h.z⟩

theorem IsMeasurable.isFinite_moveTo (h : coord.IsMeasurable) (world : World) :
    (world.moveTo coord).position.IsFinite := by
  obtain ⟨hx, hy, hz⟩ := isMeasurable_iff.1 h
  have hhalf : |(1 / 2 : ℚ)| ≤ 5 := by norm_num
  rw [World.moveTo]
  constructor <;> dsimp only
  · exact isFinite_add_small hx value?_half hhalf
  · exact hy
  · exact isFinite_add_small hz value?_half hhalf

theorem IsMeasurable.exists_distance (h : coord.IsMeasurable) (origin : Position) :
    ∃ gap, coord.distanceFrom origin = .ok gap := by
  obtain ⟨corner, hcorner⟩ := Option.isSome_iff_exists.1 h
  exact ⟨_, distanceFrom_eq_ok.2 ⟨corner, hcorner, rfl⟩⟩

-- The definition is unfolded as a function: an application of it would be computed.
theorem ofWhole_eq_elim :
    Decode.ofWhole = fun n => (ofInt? n).elim (.fail .notNumber) .good := by
  unfold Decode.ofWhole
  funext n
  cases ofInt? n with
  | none => rfl
  | some value => rfl

theorem number_of_ofInt? {n : ℤ} {value : Binary64} (h : ofInt? n = some value) :
    Decode.number (.int n) = .good value := by
  have hwhole : Decode.number (.int n) = Decode.ofWhole n := rfl
  simp only [hwhole, ofWhole_eq_elim, h, Option.elim_some]

theorem IsMeasurable.exists_sighting (h : coord.IsMeasurable) :
    ∃ position, coord.sightedAt = .ok position := by
  obtain ⟨corner, hcorner⟩ := Option.isSome_iff_exists.1 h
  simp only [corner?, Option.bind_eq_bind, Option.bind_eq_some_iff] at hcorner
  obtain ⟨x, hx, y, hy, z, hz, -⟩ := hcorner
  unfold sightedAt
  rw [number_of_ofInt? hx, number_of_ofInt? hy, number_of_ofInt? hz]
  exact ⟨_, rfl⟩

end Coord

def Call.AimsFinite : Call → Prop
  | .goTo target => target.IsFinite
  | _ => True

/-- An action sends the agent to finite points only. -/
theorem aimsFinite_of_dispatch {σ : Type} {body : Body σ} {state : σ} {action : Action}
    {call : Call} (h : (dispatch body state action).call? = some call) : call.AimsFinite := by
  cases call with
  | goTo target =>
      have hpoint := point?_of_goTo h
      unfold Plan.point? at hpoint
      split at hpoint
      · simp only [Option.bind_eq_bind, Option.bind_eq_some_iff] at hpoint
        obtain ⟨x, -, y, -, z, -, hfinite⟩ := hpoint
        split at hfinite
        · rename_i hall
          obtain rfl := Option.some.inj hfinite
          simp only [Bool.and_eq_true] at hall
          exact ⟨hall.1.1, hall.1.2, hall.2⟩
        · exact nomatch hfinite
      · exact nomatch hpoint
  | _ => trivial

namespace World

variable {world after : World}

/-! ## Finding what can be measured -/

theorem exists_findAux_of_measurable {origin : Position} {passes : String → Bool}
    {entries : List (Coord × String)} (h : ∀ coord ∈ entries.map Prod.fst, coord.IsMeasurable)
    (best : Option (Binary64 × Coord)) :
    ∃ found, findAux origin passes best entries = .ok found := by
  induction entries generalizing best with
  | nil => exact ⟨_, rfl⟩
  | cons entry rest ih =>
      rw [List.map_cons, List.forall_mem_cons] at h
      obtain ⟨hfirst, hrest⟩ := h
      unfold findAux
      split
      · obtain ⟨gap, hgap⟩ := hfirst.exists_distance origin
        rw [hgap]
        exact ih hrest _
      · exact ih hrest _

theorem exists_targetAux_of_measurable {origin : Position} {name : String} {entities : List Entity}
    (h : ∀ entity ∈ entities, entity.position.IsMeasurable) (place : ℕ)
    (best : Option (Binary64 × ℕ)) :
    ∃ found, targetAux origin name place best entities = .ok found := by
  induction entities generalizing place best with
  | nil => exact ⟨_, rfl⟩
  | cons entity rest ih =>
      obtain ⟨hfirst, hrest⟩ := List.forall_mem_cons.1 h
      unfold targetAux
      split
      · obtain ⟨gap, hgap⟩ := hfirst.exists_distance origin
        rw [hgap]
        exact ih hrest _ _
      · exact ih hrest _ _

/-- A world in which everything can be measured: the agent is at a finite place, and the coordinates
of all blocks and beings are numbers. -/
structure Steady (world : World) : Prop where
  position : world.position.IsFinite
  blocks : ∀ coord ∈ world.blocks.keys, coord.IsMeasurable
  entities : ∀ entity ∈ world.entities, entity.position.IsMeasurable

theorem steady_iff : world.Steady ↔ world.position.IsFinite ∧
    (∀ coord ∈ world.blocks.keys, coord.IsMeasurable) ∧
      ∀ entity ∈ world.entities, entity.position.IsMeasurable :=
  ⟨fun h => ⟨h.position, h.blocks, h.entities⟩, fun h => ⟨h.1, h.2.1, h.2.2⟩⟩

instance (world : World) : Decidable world.Steady :=
  decidable_of_iff _ steady_iff.symm

theorem Steady.exists_findBlock (h : world.Steady) (passes : String → Bool) :
    ∃ found, world.findBlock passes = .ok found :=
  exists_findAux_of_measurable h.blocks none

theorem Steady.exists_target (h : world.Steady) (name : String) :
    ∃ found, world.target? name = .ok found :=
  exists_targetAux_of_measurable h.entities 0 none

theorem Steady.exists_hasTableFor (h : world.Steady) (recipe : Recipe) :
    ∃ found, world.hasTableFor recipe = .ok found := by
  unfold hasTableFor
  split
  · obtain ⟨found, hfound⟩ := h.exists_findBlock (· == "crafting_table")
    rw [hfound]
    exact ⟨_, rfl⟩
  · exact ⟨_, rfl⟩

/-! ## Seeing -/

theorem exists_mapM {α β : Type} {f : α → Except Fault β} {items : List α}
    (h : ∀ item ∈ items, ∃ value, f item = .ok value) : ∃ values, items.mapM f = .ok values := by
  induction items with
  | nil => exact ⟨[], rfl⟩
  | cons item rest ih =>
      obtain ⟨⟨value, hvalue⟩, hrest⟩ := List.forall_mem_cons.1 h
      obtain ⟨values, hvalues⟩ := ih hrest
      simp only [List.mapM_cons, hvalue, hvalues, bind, Except.bind]
      exact ⟨value :: values, rfl⟩

/-- Everything around the agent can be seen. -/
theorem Steady.exists_observation (h : world.Steady) : ∃ seen, world.observe = .ok seen := by
  obtain ⟨here, hhere⟩ := h.position.exists_block
  have hscan : ∃ labels, world.scan = .ok labels := by
    unfold scan
    rw [hhere]
    exact ⟨_, rfl⟩
  have hbeings : ∃ seen, world.beings = .ok seen := by
    refine exists_mapM fun entity hmem => ?_
    obtain ⟨position, hposition⟩ := (h.entities entity hmem).exists_sighting
    rw [hposition]
    exact ⟨_, rfl⟩
  obtain ⟨labels, hlabels⟩ := hscan
  obtain ⟨seen, hseen⟩ := hbeings
  unfold observe
  rw [hlabels, hseen]
  exact ⟨_, rfl⟩

/-! ## Operations that meet no fault -/

open Act

theorem goTo_answers {target : Position} (h : target.IsFinite) (world : World) :
    (goTo target).Answers world := by
  unfold goTo
  refine answers_find ?_ fun block _ => answers_look ?_
  · exact h.exists_block
  · split
    · exact answers_refuse _
    · exact answers_change (answers_change (answers_pure true))

theorem isFinite_step {coordinate : Binary64} {step : ℤ} (h : coordinate.isFinite = true)
    (hstep : step.natAbs ≤ 5) : (coordinate + ofInt step).isFinite = true := by
  have hvalue : (ofInt step).value? = some (step : ℚ) := value?_ofInt (hstep.trans (by decide))
  have hsize : |(step : ℚ)| ≤ 5 := by
    rw [← Int.cast_abs, Int.abs_eq_natAbs]
    exact_mod_cast hstep
  exact isFinite_add_small h hvalue hsize

theorem Steady.moveDirection_answers (h : world.Steady) (direction : String) :
    (moveDirection direction).Answers world := by
  unfold moveDirection
  split
  · exact answers_refuse _
  · rename_i dx dz hoffset
    obtain ⟨hx, hy, hz⟩ := h.position
    obtain ⟨hdx, hdz⟩ := moveOffset_le hoffset
    refine answers_look (goTo_answers ?_ world)
    exact ⟨isFinite_step hx hdx, hy, isFinite_step hz hdz⟩

theorem Steady.mineBlock_answers (h : world.Steady) (name : String) :
    (mineBlock name).Answers world := by
  unfold mineBlock
  refine answers_find ?_ fun found _ => ?_
  · exact h.exists_findBlock _
  · split
    · exact answers_refuse _
    · refine answers_look ?_
      split
      · exact answers_change (answers_change (answers_change (answers_succeed _)))
      · exact answers_refuse _

theorem Steady.placeBlock_answers (h : world.Steady) (name : String) :
    (placeBlock name).Answers world := by
  unfold placeBlock
  refine answers_look ?_
  split
  · exact answers_refuse _
  · refine answers_find ?_ fun block _ => answers_look ?_
    · exact h.position.exists_block
    · split
      · exact answers_refuse _
      · exact answers_change (answers_change (answers_change (answers_succeed _)))

theorem Steady.attackEntity_answers (h : world.Steady) (name : String) :
    (attackEntity name).Answers world := by
  unfold attackEntity
  refine answers_find ?_ fun found _ => ?_
  · exact h.exists_target name
  · split
    · exact answers_refuse _
    · exact answers_change (answers_change (answers_pure true))

theorem eatFood_answers (world : World) : eatFood.Answers world := by
  unfold eatFood
  refine answers_look ?_
  split
  · exact answers_refuse _
  · exact answers_change (answers_change (answers_change (answers_succeed _)))

theorem useUp_answers (ingredients : List (String × Int)) (world : World) :
    (useUp ingredients).Answers world := by
  induction ingredients generalizing world with
  | nil => exact answers_pure ()
  | cons ingredient rest ih => exact answers_change (ih _)

theorem Steady.craft_answers (h : world.Steady) (name : String) : (craft name).Answers world := by
  unfold craft
  split
  · exact answers_refuse _
  · refine answers_find ?_ fun table _ => ?_
    · exact h.exists_hasTableFor _
    · split
      · refine answers_look ?_
        split
        · exact answers_refuse _
        · exact (useUp_answers _ _).bind fun _ _ =>
            answers_change (answers_change (answers_succeed _))
      · exact answers_refuse _

theorem Steady.sleep_answers (h : world.Steady) : sleep.Answers world := by
  unfold sleep
  refine answers_find ?_ fun found _ => ?_
  · exact h.exists_findBlock _
  · split
    · exact answers_refuse _
    · refine answers_look ?_
      split
      · exact answers_refuse _
      · exact answers_change (answers_succeed _)

theorem lookAt_answers (target : Position) (world : World) : (lookAt target).Answers world :=
  answers_change (answers_pure true)

/-! ## Calls -/

theorem answers_answer {act : Act World Bool} (h : act.Answers world) :
    Act.Answers (fun world => answer (act world)) world := by
  obtain ⟨⟨value, hvalue⟩, hcalm⟩ := h
  exact ⟨⟨.bool value, by simp [answer, Outcome.map, hvalue, Except.map]⟩, hcalm⟩

/-- In a steady world no call meets a fault. -/
theorem Steady.perform_answers (h : world.Steady) {call : Call} (hcall : call.AimsFinite) :
    Act.Answers (perform · call) world := by
  cases call with
  | moveDirection direction => exact answers_answer (h.moveDirection_answers direction)
  | goTo target => exact answers_answer (goTo_answers hcall world)
  | mineBlock name => exact answers_answer (h.mineBlock_answers name)
  | attackEntity name => exact answers_answer (h.attackEntity_answers name)
  | craft name => exact answers_answer (h.craft_answers name)
  | placeBlock name => exact answers_answer (h.placeBlock_answers name)
  | eatFood => exact answers_answer (eatFood_answers world)
  | sleep => exact answers_answer h.sleep_answers
  | chat message => exact ⟨⟨.null, rfl⟩, nofun⟩
  | lookAt target => exact answers_answer (lookAt_answers target world)

/-! ## What stays steady -/

theorem Steady.of_same (h : world.Steady) (hposition : after.position = world.position)
    (hblocks : after.blocks = world.blocks) (hentities : after.entities = world.entities) :
    after.Steady where
  position := hposition ▸ h.position
  blocks := hblocks ▸ h.blocks
  entities := hentities ▸ h.entities

/-- An agent that went to a point stands in the middle of a block that the point lies in. -/
theorem WentTo.steady {target : Position} (hwent : world.WentTo target after) (h : world.Steady) :
    after.Steady where
  position := by
    obtain ⟨block, hblock, -, rfl⟩ := hwent
    have hfinite := (Coord.inRange_of_block hblock).isMeasurable.isFinite_moveTo world
    rw [advance]
    exact hfinite
  blocks := hwent.blocks ▸ h.blocks
  entities := hwent.entities ▸ h.entities

theorem position_of_mem_strike {place : ℕ} {entities : List Entity} {entity : Entity}
    (h : entity ∈ strike place entities) :
    ∃ old ∈ entities, entity.position = old.position := by
  unfold strike at h
  cases hold : entities[place]? with
  | none =>
      rw [hold] at h
      exact ⟨entity, h, rfl⟩
  | some old =>
      have hmem : entity ∈ entities.set place old.struck := by
        rw [hold] at h
        dsimp only at h
        split at h
        · exact List.mem_of_mem_eraseP h
        · exact h
      rcases List.mem_or_eq_of_mem_set hmem with hsame | hstruck
      · exact ⟨entity, hsame, rfl⟩
      · exact ⟨old, List.mem_of_getElem? hold, hstruck ▸ rfl⟩

theorem Does.steady {call : Call} (hdoes : Does world call after) (h : world.Steady) :
    after.Steady := by
  cases hdoes with
  | moved _ hwent => exact hwent.steady h
  | went hwent => exact hwent.steady h
  | @mined name coord =>
      refine ⟨by rw [advance]; exact h.position, fun other hmem => ?_, by simpa using h.entities⟩
      rw [advance_blocks] at hmem
      obtain ⟨entry, hentry, rfl⟩ := List.mem_map.1 hmem
      exact h.blocks _ (List.mem_map_of_mem (List.mem_of_mem_filter hentry))
  | hit =>
      refine ⟨by rw [advance]; exact h.position, by rw [advance_blocks]; exact h.blocks, ?_⟩
      intro entity hmem
      rw [advance_entities] at hmem
      obtain ⟨old, hold, hsame⟩ := position_of_mem_strike hmem
      exact hsame ▸ h.entities old hold
  | made =>
      refine h.of_same ?_ ?_ (by simp)
      · rw [advance, give, takeAll_eq]
      · rw [advance_blocks, give, takeAll_eq]
  | @placed name block hhere =>
      refine ⟨by rw [advance]; exact h.position, fun other hmem => ?_, by simpa using h.entities⟩
      rw [advance_blocks] at hmem
      rcases (Table.mem_keys_put ..).1 hmem with rfl | hold
      · exact (Coord.inRange_of_block hhere).isMeasurable_east
      · exact h.blocks other hold
  | ate =>
      refine h.of_same ?_ ?_ (by simp)
      · rw [advance, feed, take]
      · rw [advance_blocks, feed, take]
  | slept => exact h.of_same rfl rfl rfl
  | said => exact h.of_same rfl rfl rfl
  | looked => exact h.of_same rfl rfl rfl

theorem isLasting_steady : IsLasting Steady where
  does hdoes h := hdoes.steady h
  connected _ h := h.of_same rfl rfl rfl

/-! ## Runs -/

/-- What an agent does with its world: it acts, or it looks around. -/
inductive Deed where
  | act (action : Action)
  | observe

namespace Deed

def apply (deed : Deed) (world : World) : World :=
  match deed with
  | act action => (dispatch body world action).state
  | observe => (body.observe world).state

/-- Whether a deed meets no fault: every call that is made is answered, and no fault is noted. -/
def MeetsNoFault (deed : Deed) (world : World) : Prop :=
  match deed with
  | act action =>
      (∀ call, (dispatch body world action).call? = some call →
        ∃ answer, (world.perform call).result = .ok answer) ∧
      Dispatched.faultLog action ∉ (dispatch body world action).logs
  | observe => ∃ seen, (body.observe world).result = .ok seen

theorem steady_apply (deed : Deed) (h : world.Steady) : (deed.apply world).Steady := by
  cases deed with
  | observe => exact h
  | act action =>
      have happly : (act action).apply world = (dispatch body world action).state := rfl
      rcases dispatch_cases body world action with ⟨-, hsame⟩ | ⟨call, -, -, hstate⟩
      · rw [happly, hsame]
        exact h
      · rw [happly, hstate]
        exact isLasting_steady.apply h (.call call)

theorem meetsNoFault (deed : Deed) (h : world.Steady) : deed.MeetsNoFault world := by
  cases deed with
  | observe => exact h.exists_observation
  | act action =>
      have hcalls : ∀ call, (dispatch body world action).call? = some call →
          Act.Answers (body.perform · call) world := fun call hcall =>
        h.perform_answers (aimsFinite_of_dispatch hcall)
      exact ⟨fun call hcall => (hcalls call hcall).answered,
        faultLog_not_mem_dispatch ⟨world.position, rfl⟩ hcalls⟩

end Deed

def afterDeeds (world : World) (deeds : List Deed) : World :=
  deeds.foldl (fun world deed => deed.apply world) world

theorem steady_afterDeeds (h : world.Steady) (deeds : List Deed) :
    (world.afterDeeds deeds).Steady := by
  induction deeds generalizing world with
  | nil => exact h
  | cons deed rest ih => exact ih (deed.steady_apply h)

/-- In a steady world nothing that an agent does ever meets a fault, and the agent stays at a finite
place. -/
theorem never_meets_fault {start : World} (h : start.Steady) (deeds : List Deed) :
    (start.afterDeeds deeds).position.IsFinite ∧
      ∀ deed : Deed, deed.MeetsNoFault (start.afterDeeds deeds) :=
  ⟨(steady_afterDeeds h deeds).position, fun deed => deed.meetsNoFault (steady_afterDeeds h deeds)⟩

/-- A world whose last block is as far away as numbers reach. -/
def edgeOfNumbers : World where
  position := ⟨ofInt greatest, 64, -half⟩
  blocks := .ofList [(⟨greatest, 63, 0⟩, "stone"), (⟨-10 ^ 308, 64, 0⟩, "red_bed")]
  entities := [⟨"cow", ⟨greatest, 65, -1⟩, none, 20⟩]
  inventory := .ofList [("dirt", 2)]

/-- A walk along the edge, with targets that are no numbers or too large for one. -/
def alongTheEdge : List Deed := [
  .act ⟨"goto", some ["nan", "64", "0"], "nan 64 0"⟩,
  .act ⟨"goto", some ["1e309", "64", "0"], "1e309 64 0"⟩,
  .act ⟨"goto", some ["1.7976931348623157e308", "64", "0"], "1.7976931348623157e308 64 0"⟩,
  .observe,
  .act ⟨"move", some ["East"], "East"⟩,
  .act ⟨"place", some ["dirt"], "dirt"⟩]

/-- The block that is built on the edge stands beyond the greatest number, and is still found. -/
theorem edgeOfNumbers_never_meets_fault :
    edgeOfNumbers.Steady ∧
      (edgeOfNumbers.afterDeeds alongTheEdge).blocks.contains ⟨greatest + 1, 64, 0⟩ = true ∧
      (edgeOfNumbers.afterDeeds alongTheEdge).position.IsFinite ∧
      (∃ seen, (edgeOfNumbers.afterDeeds alongTheEdge).observe = .ok seen) ∧
      ∃ answer, ((edgeOfNumbers.afterDeeds alongTheEdge).perform (.mineBlock "dirt")).result =
        .ok answer := by
  have hstart : edgeOfNumbers.Steady := by decide +kernel
  obtain ⟨hplace, hdeeds⟩ := never_meets_fault hstart alongTheEdge
  obtain ⟨hcalls, -⟩ := hdeeds (.act ⟨"mine", some ["dirt"], "dirt"⟩)
  exact ⟨hstart, by decide +kernel, hplace, hdeeds .observe,
    hcalls (.mineBlock "dirt") (by decide +kernel)⟩

end World

end Rulebound
