import Rulebound.Json.Printer
import Rulebound.Proofs.Number.Digits

/-!
# Values that are written

Nothing keeps a value from being written if its integers are short and there is room for its levels
of nesting.
-/

namespace Rulebound.Json

/-- Nothing keeps a value from being written where there is room for so many levels of nesting. -/
def Fits (room : Nat) (value : Json) : Prop :=
  unwritable? room value = none

theorem not_isShort_of_le {value : Int} (h : pow10 longestInteger ≤ value.natAbs) :
    ¬ IsShort value :=
  Nat.not_le.2 (lt_length_digitsOf h)

theorem not_isShort_pow10 : ¬ IsShort (pow10 longestInteger) := by
  apply not_isShort_of_le
  exact Nat.le_of_eq (Int.natAbs_natCast _).symm

@[simp] theorem unwritableInt?_eq_none {value : Int} :
    unwritableInt? value = none ↔ IsShort value := by
  unfold unwritableInt?
  split
  · simp [*]
  · simp [*]

section Fits

variable {room : Nat}

@[simp] theorem fits_null : Fits room null := by
  cases room <;> rfl

@[simp] theorem fits_bool (value : Bool) : Fits room (bool value) := by
  cases room <;> rfl

@[simp] theorem fits_float (value : Binary64) : Fits room (float value) := by
  cases room <;> rfl

@[simp] theorem fits_string (value : CodeText) : Fits room (string value) := by
  cases room <;> rfl

@[simp] theorem fits_ofText? (text? : Option String) : Fits room (ofText? text?) := by
  cases text? with
  | none => exact fits_null
  | some text => exact fits_string text

@[simp] theorem fits_int {value : Int} : Fits room (int value) ↔ IsShort value := by
  unfold Fits
  cases room <;> exact unwritableInt?_eq_none

theorem not_fits_zero_array (items : List Json) : ¬ Fits 0 (array items) :=
  Option.some_ne_none _

theorem not_fits_zero_object (fields : Fields) : ¬ Fits 0 (object fields) :=
  Option.some_ne_none _

@[simp] theorem fits_array {items : List Json} :
    Fits (room + 1) (array items) ↔ ∀ item ∈ items, Fits room item := by
  unfold Fits
  rw [unwritable?]
  induction items with
  | nil => exact ⟨fun _ => List.forall_mem_nil _, fun _ => rfl⟩
  | cons item rest ih =>
      rw [unwritableItem?, Option.or_eq_none_iff, ih, List.forall_mem_cons]

@[simp] theorem fits_object {fields : Fields} :
    Fits (room + 1) (object fields) ↔ ∀ field ∈ fields, Fits room field.2 := by
  unfold Fits
  rw [unwritable?]
  induction fields with
  | nil => exact ⟨fun _ => List.forall_mem_nil _, fun _ => rfl⟩
  | cons field rest ih =>
      obtain ⟨name, value⟩ := field
      rw [unwritableField?, Option.or_eq_none_iff, ih, List.forall_mem_cons]

@[simp] theorem fits_ofTexts (texts : List String) : Fits (room + 1) (ofTexts texts) := by
  simp [ofTexts]

end Fits

end Rulebound.Json
