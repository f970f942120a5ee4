import Rulebound.Proofs.Diary

/-!
# What can be written

A value is not written if it lies too deep or has an integer of too many digits. Entries never lie
too deep by themselves, and the only integers of a record are its number and how many of each item
the agent carries. So these alone can keep a record out of the diary.
-/

namespace Rulebound

/-! ## Records -/

section Records

variable {room : Nat}

@[simp] theorem Position.fits (p : Position) : Json.Fits (room + 1) p.toJson := by
  simp [toJson]

@[simp] theorem Sighting.fits (s : Sighting) : Json.Fits (room + 1) s.toJson := by
  simp [toJson]

@[simp] theorem Item.fits_iff {item : Item} :
    Json.Fits (room + 1) item.toJson ↔ IsShort item.count := by
  simp [toJson]

/-- What is seen to be carried is not too many of anything to be written. -/
def Observation.IsCountable (o : Observation) : Prop :=
  ∀ item ∈ o.inventory, IsShort item.count

instance (o : Observation) : Decidable o.IsCountable :=
  inferInstanceAs (Decidable (∀ item ∈ o.inventory, IsShort item.count))

@[simp] theorem Observation.fits_iff {o : Observation} :
    Json.Fits (room + 3) o.toJson ↔ o.IsCountable := by
  simp [toJson, IsCountable]

@[simp] theorem Action.fits (action : Action) : Json.Fits (room + 2) action.toJson := by
  cases hparams : action.params <;> simp [toJson, hparams]

@[simp] theorem Cycle.Result.fits (result : Cycle.Result) :
    Json.Fits (room + 1) result.toJson := by
  simp [toJson]

theorem Cycle.Record.fits_iff {record : Cycle.Record} :
    Json.Fits (room + 4) record.toJson ↔
      IsShort record.tick ∧ ∀ seen, record.observation = some seen → seen.IsCountable := by
  cases hseen : record.observation <;> cases haction : record.action <;>
    simp [toJson, hseen, haction]

end Records

/-! ## Entries -/

namespace Diary.Entry

variable [Json.Nesting]

/-- The levels of nesting that there is room for in the fields of an entry. -/
def fieldLevels : Nat := Json.deepest - 1

theorem deepest_eq : Json.deepest = fieldLevels + 1 := by
  have henough := Json.Nesting.enough
  unfold fieldLevels
  omega

/-- There is room for the values of records and profiles. -/
theorem fieldLevels_eq : ∃ room, fieldLevels = room + 4 := by
  have henough := Json.Nesting.enough
  exact ⟨Json.deepest - 5, by unfold fieldLevels; omega⟩

theorem isWritable_ofType {entry : Entry} {type : String} {fields : Json.Fields}
    (h : entry.toJson = ofType type fields) :
    entry.IsWritable ↔ ∀ field ∈ fields, Json.Fits fieldLevels field.2 := by
  have hversion : IsShort schemaVersion := by decide
  unfold IsWritable
  rw [deepest_eq, h, ofType, Json.fits_object]
  simp [hversion]

/-- A record is kept out of the diary by its number or by what is seen, and by nothing else. -/
theorem isWritable_cycle_iff {record : Cycle.Record} :
    (cycle record).IsWritable ↔
      IsShort record.tick ∧ ∀ seen, record.observation = some seen → seen.IsCountable := by
  obtain ⟨room, hroom⟩ := fieldLevels_eq
  rw [isWritable_ofType rfl, List.forall_mem_singleton, hroom]
  exact Cycle.Record.fits_iff

theorem isWritable_error (time : Instant) (message : String) (fault : Fault) :
    (error time message fault).IsWritable := by
  rw [isWritable_ofType rfl]
  simp

theorem isWritable_event_iff {time : Instant} {kind : String} {details : Json} :
    (event time kind details).IsWritable ↔ Json.Fits fieldLevels details := by
  rw [isWritable_ofType rfl]
  simp

theorem isWritable_header {time : Instant} {profile : Profile} {metadata : Json}
    (h : Json.Fits fieldLevels metadata) : (header time profile metadata).IsWritable := by
  obtain ⟨room, hroom⟩ := fieldLevels_eq
  have hprofile : Json.Fits (room + 2 + 2) profile.toJson := by simp [Profile.toJson]
  have hnothing : Json.Fits (room + 3 + 1) (.object []) := by simp
  rw [isWritable_ofType rfl, hroom]
  rw [hroom] at h
  simp only [List.forall_mem_cons, List.not_mem_nil, false_imp_iff, implies_true, and_true]
  refine ⟨Json.fits_string _, hprofile, ?_⟩
  split
  · exact h
  · exact hnothing

end Diary.Entry

end Rulebound
