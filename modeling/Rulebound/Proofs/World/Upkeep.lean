import Rulebound.Proofs.Number.Exact
import Rulebound.Proofs.World.Conservation

/-!
# The upkeep of an agent

What living costs: every action takes its time and its food, a meal gives food back, and a night's
sleep starts the day anew. Food stays between nothing and full, and the hour is known from what was
done since the last sleep.
-/

namespace Rulebound

open Binary64

/-- Whether a call takes time: all that is granted does, but for sleeping, speaking and looking. -/
def Call.takesTime : Call → Bool
  | .moveDirection _ | .goTo _ | .mineBlock _ | .placeBlock _ | .attackEntity _ | .eatFood
  | .craft _ => true
  | .sleep | .chat _ | .lookAt _ => false

namespace World

variable {world next : World} {call : Call}

/-! ## Food -/

def IsFood (food : Binary64) : Prop :=
  ∃ amount, food.value? = some amount ∧ 0 ≤ amount ∧ amount ≤ 20

theorem value?_empty : (0 : Binary64).value? = some (0 : ℚ) := by
  have hzero : (0 : Binary64) = ofInt 0 := rfl
  rw [hzero, value?_ofInt (by decide), Int.cast_zero]

theorem value?_full : (20 : Binary64).value? = some (20 : ℚ) := by
  have htwenty : (20 : Binary64) = ofInt 20 := rfl
  rw [htwenty, value?_ofInt (by decide), Int.cast_ofNat]

theorem IsFood.advance (h : IsFood world.food) : IsFood world.advance.food := by
  obtain ⟨amount, hamount, hlow, hhigh⟩ := h
  have hpart : hunger = ofRatio 1 (pow2 2) := rfl
  have hhunger : hunger.value? = some (1 / 4 : ℚ) := by
    rw [hpart, value?_ofRatio (by decide) (by decide), pow2_cast]
    norm_num
  have hsize : |amount + -(1 / 4)| ≤ (20 : ℕ) := by
    rw [abs_le]
    constructor <;> push_cast <;> linarith
  obtain ⟨rest, hrest, hbound, -⟩ :=
    add_within (by decide) hamount (value?_neg hhunger) hsize
  have hfood : world.advance.food =
      if (0 : Binary64).lt (world.food - hunger) then world.food - hunger else 0 := by
    rw [World.advance]
  have hsub : (world.food - hunger).value? = some rest := hrest
  rw [hfood, lt_eq_decide value?_empty hsub]
  by_cases hpos : 0 < rest
  · rw [decide_eq_true hpos, if_pos rfl]
    have htop := (abs_le.1 hbound).2
    exact ⟨rest, hsub, hpos.le, by exact_mod_cast htop⟩
  · rw [decide_eq_false hpos, if_neg Bool.false_ne_true]
    exact ⟨0, value?_empty, le_refl _, by norm_num⟩

theorem foodPoints_le {item : String} {points : ℤ} (h : foodPoints? item = some points) :
    0 ≤ points ∧ points ≤ 8 := by
  have hall : ∀ food ∈ [("apple", (4 : ℤ)), ("bread", 5), ("carrot", 3), ("cooked_beef", 8),
      ("cooked_porkchop", 8), ("beef", 3)], 0 ≤ food.2 ∧ food.2 ≤ 8 := by decide
  exact hall _ (mem_of_lookup h)

theorem IsFood.feed (h : IsFood world.food) {points : ℤ} (hpoints : 0 ≤ points ∧ points ≤ 8) :
    IsFood (world.feed points).food := by
  obtain ⟨amount, hamount, hlow, hhigh⟩ := h
  obtain ⟨hleast, hmost⟩ := hpoints
  have hbits : pow2 53 = 9007199254740992 := rfl
  have hleast' : (0 : ℚ) ≤ points := by exact_mod_cast hleast
  have hmost' : (points : ℚ) ≤ 8 := by exact_mod_cast hmost
  have hsize : |amount + points| ≤ (28 : ℕ) := by
    rw [abs_le]
    constructor <;> push_cast <;> linarith
  obtain ⟨sum, hsum, -, hnonneg⟩ :=
    add_within (by decide) hamount (value?_ofInt (by omega)) hsize
  have hfood : (world.feed points).food =
      if (world.food + ofInt points).lt 20 then world.food + ofInt points else 20 := by
    rw [World.feed]
  rw [hfood, lt_eq_decide hsum value?_full]
  by_cases hless : sum < 20
  · rw [decide_eq_true hless, if_pos rfl]
    exact ⟨sum, hsum, hnonneg (by linarith), hless.le⟩
  · rw [decide_eq_false hless, if_neg Bool.false_ne_true]
    exact ⟨20, value?_full, by norm_num, le_refl _⟩

/-! ## What lasts -/

structure IsSound (world : World) : Prop where
  stocked : world.Stocked
  food : IsFood world.food
  time : 0 ≤ world.time ∧ world.time < dayLength

/-- What no operation changes: the health of the agent, and the land and weather around it. -/
structure SameLand (before after : World) : Prop where
  health : after.health = before.health
  biome : after.biome = before.biome
  raining : after.raining = before.raining
  thunder : after.thunder = before.thunder

theorem Does.sameLand (h : Does world call next) : SameLand world next := by
  cases h with
  | moved _ hwent =>
      obtain ⟨block, -, -, rfl⟩ := hwent
      constructor <;> rw [advance, moveTo]
  | went hwent =>
      obtain ⟨block, -, -, rfl⟩ := hwent
      constructor <;> rw [advance, moveTo]
  | mined => constructor <;> rw [advance, give, clear]
  | hit => constructor <;> rw [advance]
  | made => constructor <;> rw [advance, give, takeAll_eq]
  | placed => constructor <;> rw [advance, take, build]
  | ate => constructor <;> rw [advance, feed, take]
  | slept => exact ⟨rfl, rfl, rfl, rfl⟩
  | said => exact ⟨rfl, rfl, rfl, rfl⟩
  | looked => exact ⟨rfl, rfl, rfl, rfl⟩

theorem Does.food (h : Does world call next) (hfood : IsFood world.food) : IsFood next.food := by
  cases h with
  | moved _ hwent =>
      obtain ⟨block, -, -, rfl⟩ := hwent
      exact IsFood.advance (by rw [moveTo]; exact hfood)
  | went hwent =>
      obtain ⟨block, -, -, rfl⟩ := hwent
      exact IsFood.advance (by rw [moveTo]; exact hfood)
  | mined => exact IsFood.advance (by rw [give, clear]; exact hfood)
  | hit => exact IsFood.advance hfood
  | made => exact IsFood.advance (by rw [give, takeAll_eq]; exact hfood)
  | placed => exact IsFood.advance (by rw [take, build]; exact hfood)
  | @ate item hitem =>
      have htaken : IsFood (world.take item 1).food := by
        rw [take]
        exact hfood
      refine (htaken.feed ?_).advance
      cases hpoints : foodPoints? item with
      | none => exact ⟨le_refl _, by decide⟩
      | some points => exact foodPoints_le hpoints
  | slept => exact hfood
  | said => exact hfood
  | looked => exact hfood

/-! ## The hour -/

/-- The hour after a call that is granted. -/
def hourAfter (hour : ℤ) (call : Call) : ℤ :=
  if call = .sleep then 0
  else if call.takesTime then (hour + actionTime) % dayLength else hour

theorem advance_time (world : World) :
    world.advance.time = (world.time + actionTime) % dayLength := by
  rw [advance]

theorem Does.time (h : Does world call next) : next.time = hourAfter world.time call := by
  cases h with
  | moved _ hwent =>
      obtain ⟨block, -, -, rfl⟩ := hwent
      rw [advance_time, moveTo]
      rfl
  | went hwent =>
      obtain ⟨block, -, -, rfl⟩ := hwent
      rw [advance_time, moveTo]
      rfl
  | mined => rw [advance_time, give, clear]; rfl
  | hit => rw [advance_time]; rfl
  | made => rw [advance_time, give, takeAll_eq]; rfl
  | placed => rw [advance_time, take, build]; rfl
  | ate => rw [advance_time, feed, take]; rfl
  | slept => rfl
  | said => rfl
  | looked => rfl

/-- The calls after the last night's sleep, from the last one on. -/
def sinceSleep (calls : List Call) : List Call :=
  calls.reverse.takeWhile (· ≠ .sleep)

/-- The hour that a day has come to when the given calls have been granted. -/
def hourOf (start : ℤ) (calls : List Call) : ℤ :=
  ((if Call.sleep ∈ calls then 0 else start) +
    actionTime * (sinceSleep calls).countP Call.takesTime) % dayLength

theorem hourOf_nil {start : ℤ} (h : 0 ≤ start ∧ start < dayLength) : hourOf start [] = start := by
  have hsame : hourOf start [] = (start + actionTime * (0 : ℕ)) % dayLength := rfl
  rw [hsame, Nat.cast_zero, mul_zero, add_zero]
  exact Int.emod_eq_of_lt h.1 h.2

theorem hourOf_append (start : ℤ) (calls : List Call) (call : Call) :
    hourOf start (calls ++ [call]) = hourAfter (hourOf start calls) call := by
  unfold hourOf hourAfter sinceSleep
  rw [List.reverse_append, List.reverse_singleton, List.singleton_append]
  by_cases hsleep : call = .sleep
  · subst hsleep
    rw [List.takeWhile_cons_of_neg (by simp), if_pos rfl, if_pos (by simp)]
    rfl
  · rw [List.takeWhile_cons_of_pos (by simpa using hsleep), if_neg hsleep]
    have hmem : Call.sleep ∈ calls ++ [call] ↔ Call.sleep ∈ calls := by
      simp [eq_comm, hsleep]
    rw [List.countP_cons]
    simp only [hmem]
    unfold actionTime dayLength
    by_cases htakes : call.takesTime = true
    · rw [if_pos htakes, if_pos htakes]
      push_cast
      omega
    · rw [if_neg htakes, if_neg htakes]
      simp

theorem hourAfter_bounds {hour : ℤ} (h : 0 ≤ hour ∧ hour < dayLength) (call : Call) :
    0 ≤ hourAfter hour call ∧ hourAfter hour call < dayLength := by
  unfold hourAfter
  unfold dayLength at h ⊢
  split
  · omega
  · split <;> omega

/-- Sleeping is granted only at night. -/
theorem Does.night (h : Does world .sleep next) : 12000 ≤ world.time := by
  cases h with
  | slept _ hnight => exact hnight

theorem Does.isSound (h : Does world call next) (hsound : world.IsSound) : next.IsSound where
  stocked := h.stocked hsound.stocked
  food := h.food hsound.food
  time := h.time ▸ hourAfter_bounds hsound.time call

/-! ## Runs -/

theorem SameLand.trans {first second third : World} (h : SameLand first second)
    (hlater : SameLand second third) : SameLand first third where
  health := hlater.health.trans h.health
  biome := hlater.biome.trans h.biome
  raining := hlater.raining.trans h.raining
  thunder := hlater.thunder.trans h.thunder

/-- What a world has come to when the given calls have been granted. -/
structure Upkept (start world : World) (calls : List Call) : Prop where
  sound : world.IsSound
  land : SameLand start world
  time : world.time = hourOf start.time calls

theorem Upkept.granted {start : World} {calls : List Call} (h : Upkept start world calls)
    (hdoes : Does world call next) : Upkept start next (calls ++ [call]) where
  sound := hdoes.isSound h.sound
  land := h.land.trans hdoes.sameLand
  time := by rw [hourOf_append, ← h.time, hdoes.time]

/-- What is not granted changes at most what was said and whether the agent is connected. -/
theorem Upkept.said {start : World} {calls : List Call} (h : Upkept start world calls)
    (connected : Bool) (chatLog : List String) :
    Upkept start { world with connected, chatLog } calls :=
  ⟨⟨h.sound.stocked, h.sound.food, h.sound.time⟩,
    ⟨h.land.health, h.land.biome, h.land.raining, h.land.thunder⟩, h.time⟩

theorem Upkept.apply {start : World} {calls : List Call} (h : Upkept start world calls)
    (operation : Operation) :
    Upkept start (operation.apply world) (calls ++ operation.granted world) := by
  cases operation with
  | connect => exact (calls.append_nil).symm ▸ h.said true world.chatLog
  | disconnect => exact (calls.append_nil).symm ▸ h.said false world.chatLog
  | call request =>
      cases hgrants : world.grants request with
      | true =>
          have hlist : (Operation.call request).granted world = [request] := if_pos hgrants
          rw [hlist]
          exact h.granted (Does.of_grants hgrants)
      | false =>
          have hlist : (Operation.call request).granted world = [] :=
            if_neg (by rw [hgrants]; exact Bool.false_ne_true)
          rw [hlist, List.append_nil]
          rcases perform_cases world request with ⟨-, hgranted | ⟨message, rfl⟩⟩ | ⟨-, hsame⟩
          · rw [hgranted] at hgrants
            exact Bool.noConfusion hgrants
          · exact h.said world.connected (world.chatLog ++ [message])
          · have hstay : (Operation.call request).apply world = world := hsame
            rw [hstay]
            exact h

theorem Upkept.after {start : World} {calls : List Call} (h : Upkept start world calls)
    (operations : List Operation) :
    Upkept start (world.after operations) (calls ++ world.granted operations) := by
  induction operations generalizing world calls with
  | nil => exact calls.append_nil.symm ▸ h
  | cons operation rest ih =>
      have hrest := ih (h.apply operation)
      rw [List.append_assoc] at hrest
      exact hrest

/-- A sound agent stays sound: it carries no thing zero times and has between no food and a full
measure, its health and its land stay as they are, and the hour is told by what was granted since
the last night's sleep, which is granted only at night. -/
theorem stays_sound {start : World} (h : start.IsSound) (operations : List Operation) :
    Upkept start (start.after operations) (start.granted operations) ∧
      ((start.after operations).grants .sleep = true →
        12000 ≤ (start.after operations).time) := by
  have hstart : Upkept start start [] :=
    ⟨h, ⟨rfl, rfl, rfl, rfl⟩, (hourOf_nil h.time).symm⟩
  exact ⟨hstart.after operations, fun hgrants => (Does.of_grants hgrants).night⟩

def evening : World where
  blocks := .ofList [(⟨0, 64, 2⟩, "red_bed"), (⟨2, 64, 0⟩, "dirt")]
  inventory := .ofList [("apple", 1)]
  food := Binary64.ofRatio 1 4
  time := 11900

/-- Too early for sleep, and then late enough; one meal more than there is food. -/
def eveningRun : List Operation :=
  [.call .sleep, .call (.mineBlock "dirt"), .call .eatFood, .call .sleep,
    .call (.placeBlock "dirt"), .call .eatFood]

theorem evening_stays_sound :
    evening.granted eveningRun = [.mineBlock "dirt", .eatFood, .sleep, .placeBlock "dirt"] ∧
      (evening.after eveningRun).time = 400 ∧ (evening.after eveningRun).IsSound := by
  have hsound : evening.IsSound :=
    ⟨by decide, ⟨1 / 4, by decide +kernel, by norm_num, by norm_num⟩, by decide⟩
  obtain ⟨hupkept, -⟩ := stays_sound hsound eveningRun
  have hgranted : evening.granted eveningRun =
      [.mineBlock "dirt", .eatFood, .sleep, .placeBlock "dirt"] := by decide +kernel
  have htime := hupkept.time
  rw [hgranted] at htime
  exact ⟨hgranted, htime.trans (by decide), hupkept.sound⟩

end World

end Rulebound
