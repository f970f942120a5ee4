import Rulebound.Proofs.World.Operation

/-!
# Who is hit

Only an attack changes any being of a world, and only one that goes by the name that is attacked.
So beings of a kind that does not depend on their health stay as they are, each in its turn, through
every call that hits none of the kind.
-/

namespace Rulebound

def Call.Hits (call : Call) (entity : Entity) : Prop :=
  ∃ name, call = .attackEntity name ∧ entity.goesBy name = true

namespace World

variable {world : World}

/-! ## What leaves the beings alone -/

@[simp] theorem advance_entities (world : World) : world.advance.entities = world.entities := by
  rw [advance]

@[simp] theorem moveTo_entities (world : World) (block : Coord) :
    (world.moveTo block).entities = world.entities := by
  rw [moveTo]

@[simp] theorem clear_entities (world : World) (coord : Coord) :
    (world.clear coord).entities = world.entities := by
  rw [clear]

@[simp] theorem build_entities (world : World) (coord : Coord) (block : String) :
    (world.build coord block).entities = world.entities := by
  rw [build]

@[simp] theorem give_entities (world : World) (item : String) (count : Int) :
    (world.give item count).entities = world.entities := by
  rw [give]

@[simp] theorem take_entities (world : World) (item : String) (count : Int) :
    (world.take item count).entities = world.entities := by
  rw [take]

@[simp] theorem feed_entities (world : World) (points : Int) :
    (world.feed points).entities = world.entities := by
  rw [feed]

@[simp] theorem takeAll_entities (world : World) (ingredients : List (String × Int)) :
    (world.takeAll ingredients).entities = world.entities := by
  rw [takeAll_eq]

theorem WentTo.entities {target : Position} {after : World} (h : world.WentTo target after) :
    after.entities = world.entities := by
  obtain ⟨block, -, -, rfl⟩ := h
  simp

/-! ## The being that is hit -/

/-- What is found is the best being of those before, or one of those after that goes by the name. -/
theorem targetAux_spec {origin : Position} {name : String} {place found : Nat}
    {best : Option (Binary64 × Nat)} {entities : List Entity}
    (h : targetAux origin name place best entities = .ok (some found)) :
    best.map (·.2) = some found ∨ ∃ offset entity, found = place + offset ∧
      entities[offset]? = some entity ∧ entity.goesBy name = true := by
  induction entities generalizing place best with
  | nil => exact .inl (by simpa [targetAux] using h)
  | cons entity rest ih =>
      -- a being that is found among the rest stands one place further on in the whole
      have hlater : (∃ offset entity, found = place + 1 + offset ∧ rest[offset]? = some entity ∧
          entity.goesBy name = true) → ∃ offset other, found = place + offset ∧
          (entity :: rest)[offset]? = some other ∧ other.goesBy name = true := by
        rintro ⟨offset, other, hfound, hother, hgoes⟩
        exact ⟨offset + 1, other, by omega, by simpa using hother, hgoes⟩
      unfold targetAux at h
      by_cases hgoes : entity.goesBy name = true
      · rw [if_pos hgoes] at h
        cases hgap : entity.position.distanceFrom origin with
        | error fault =>
            rw [hgap] at h
            exact nomatch h
        | ok gap =>
            rw [hgap] at h
            rcases ih h with hbest | hrest
            · split at hbest
              · have hplace : place = found := by simpa using hbest
                exact .inr ⟨0, entity, by omega, rfl, hgoes⟩
              · exact .inl hbest
            · exact .inr (hlater hrest)
      · rw [if_neg hgoes] at h
        rcases ih h with hbest | hrest
        · exact .inl hbest
        · exact .inr (hlater hrest)

theorem target?_goesBy {name : String} {place : Nat} (h : world.target? name = .ok (some place)) :
    ∃ entity, world.entities[place]? = some entity ∧ entity.goesBy name = true := by
  rcases targetAux_spec h with hnone | ⟨offset, entity, hplace, hentity, hgoes⟩
  · exact nomatch hnone
  · have hsame : place = offset := by omega
    exact ⟨entity, hsame ▸ hentity, hgoes⟩

variable {kind : Entity → Bool}

/-- Beings with equal fields differ at most in how their health is written. -/
theorem kind_of_equals (hkind : ∀ entity health, kind { entity with health } = kind entity)
    {first second : Entity} (h : first.equals second = true) : kind second = kind first := by
  simp only [Entity.equals, Bool.and_eq_true, beq_iff_eq] at h
  obtain ⟨⟨⟨⟨htype, hposition⟩, hname⟩, -⟩, -⟩ := h
  have hsame : second = { first with health := second.health } := by
    rw [htype, hposition, hname]
  rw [hsame, hkind]

/-- What is removed and is not of a kind is not missed among those of the kind. -/
theorem filter_eraseP {test : Entity → Bool} (htest : ∀ entity, test entity = true →
    kind entity = false) (entities : List Entity) :
    (entities.eraseP test).filter kind = entities.filter kind := by
  induction entities with
  | nil => rfl
  | cons entity rest ih =>
      cases hfirst : test entity with
      | true =>
          have hother := htest entity hfirst
          rw [List.eraseP_cons_of_pos hfirst, List.filter_cons_of_neg (by simp [hother])]
      | false =>
          rw [List.eraseP_cons_of_neg (by simp [hfirst]), List.filter_cons, List.filter_cons, ih]

/-- Hitting a being that is not of a kind leaves all beings of the kind as they are. -/
theorem strike_filter (hkind : ∀ entity health, kind { entity with health } = kind entity)
    {place : Nat} {entities : List Entity} {entity : Entity}
    (hentity : entities[place]? = some entity) (hother : kind entity = false) :
    (strike place entities).filter kind = entities.filter kind := by
  obtain ⟨hplace, hget⟩ := List.getElem?_eq_some_iff.1 hentity
  have hstruck : kind entity.struck = false := (hkind entity _).trans hother
  have hset : (entities.set place entity.struck).filter kind = entities.filter kind := by
    calc (entities.set place entity.struck).filter kind
        = (entities.take place).filter kind ++ (entities.drop (place + 1)).filter kind := by
          rw [List.set_eq_take_append_cons_drop, if_pos hplace, List.filter_append,
            List.filter_cons_of_neg (by simp [hstruck])]
      _ = (entities.take place ++ entities.drop place).filter kind := by
          rw [List.filter_append, List.drop_eq_getElem_cons hplace, hget,
            List.filter_cons_of_neg (by simp [hother])]
      _ = entities.filter kind := by rw [List.take_append_drop]
  unfold strike
  rw [hentity]
  dsimp only
  split
  · rw [filter_eraseP (fun other hequals => ?_), hset]
    rw [kind_of_equals hkind hequals, hstruck]
  · exact hset

/-! ## Calls -/

/-- What a call does leaves every being of a kind as it is if it can hit none of the kind. -/
theorem Does.bystanders (hkind : ∀ entity health, kind { entity with health } = kind entity)
    {call : Call} {after : World} (h : Does world call after)
    (hmissed : ∀ entity, call.Hits entity → kind entity = false) :
    after.entities.filter kind = world.entities.filter kind := by
  cases h with
  | moved _ hwent => rw [hwent.entities]
  | went hwent => rw [hwent.entities]
  | @hit name place htarget =>
      obtain ⟨entity, hentity, hgoes⟩ := target?_goesBy htarget
      rw [advance_entities]
      exact strike_filter hkind hentity (hmissed entity ⟨name, rfl, hgoes⟩)
  | mined => simp
  | made => simp
  | placed => simp
  | ate => simp
  | slept => rfl
  | said => rfl
  | looked => rfl

/-- A call leaves every being of a kind as it is if it can hit none of the kind. -/
theorem perform_bystanders (hkind : ∀ entity health, kind { entity with health } = kind entity)
    {call : Call} (hmissed : ∀ entity, call.Hits entity → kind entity = false) :
    (world.perform call).state.entities.filter kind = world.entities.filter kind := by
  rcases perform_cases world call with ⟨hdoes, -⟩ | ⟨-, hsame⟩
  · exact hdoes.bystanders hkind hmissed
  · rw [hsame]

end World

end Rulebound
