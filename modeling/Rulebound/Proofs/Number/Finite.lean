import Rulebound.Proofs.Number.Exact

/-!
# Staying finite

The finite numbers end at a greatest one, and what lies less than half a gap beyond it is still
rounded to it. So a term that is small beside that gap keeps every finite number finite, however
large the number is, and the integer part of a finite number is a number again.
-/

namespace Rulebound.Binary64

variable {a b : Binary64} {p q : ℚ} {num den units : ℕ}

/-! ## The greatest number -/

/-- What lies less than half a gap above a representable count is not rounded above it. -/
theorem roundUnits_le_of_near (hden : 0 < den) (hdvd : pow2 (excess units) ∣ units)
    (h : 4 * num < (4 * units + 2 * pow2 (excess units)) * den) : roundUnits num den ≤ units := by
  rcases Nat.le_total num (units * den) with hbelow | habove
  · exact roundUnits_le hden hdvd hbelow
  · have hlow : (4 * units - 2 * gapBelow units) * den ≤ 4 * units * den :=
      Nat.mul_le_mul_right den (Nat.sub_le _ _)
    rw [Nat.mul_assoc] at hlow
    rcases Nat.lt_or_eq_of_le habove with hbetween | hsame
    · have hnear : IsNear units num den := ⟨by omega, h.le, fun _ => ⟨by omega, h⟩⟩
      exact (roundUnits_of_above hden hdvd hnear habove).le
    · exact hsame ▸ (roundUnits_exact hden hdvd).le

/-- The greatest finite number; all bits of its significand are set. -/
def greatest : ℕ := (pow2 53 - 1) * pow2 971

theorem greatest_steps : greatest * stepsPerOne = (pow2 53 - 1) * pow2 2045 := by
  rw [greatest, stepsPerOne, Nat.mul_assoc, ← pow2_add]

theorem greatest_lt_overflow : greatest * stepsPerOne < overflow :=
  calc greatest * stepsPerOne = (pow2 53 - 1) * pow2 2045 := greatest_steps
    _ < pow2 53 * pow2 2045 :=
      Nat.mul_lt_mul_of_pos_right (Nat.sub_lt (pow2_pos 53) Nat.one_pos) (pow2_pos 2045)
    _ = overflow := (pow2_add 53 2045).symm

theorem excess_greatest : excess (greatest * stepsPerOne) = 2045 := by
  refine excess_eq ?_ greatest_lt_overflow
  rw [greatest_steps, pow2_add]
  exact Nat.mul_le_mul_right _ (by decide)

theorem representable_greatest : Representable (greatest * stepsPerOne) := by
  refine ⟨greatest_lt_overflow, ?_⟩
  rw [excess_greatest, greatest_steps]
  exact Nat.dvd_mul_left _ _

/-- Half the gap below the greatest number, which it would have above it too. -/
theorem half_gap_greatest :
    2 * (pow2 970 * stepsPerOne) = pow2 (excess (greatest * stepsPerOne)) := by
  rw [excess_greatest, stepsPerOne, ← pow2_add, two_mul_pow2]

theorem excess_le_of_lt_overflow (h : units < overflow) : excess units ≤ 2045 := by
  rcases Nat.eq_zero_or_pos units with rfl | hpos
  · simp [excess]
  · have hlog := (log2_lt_iff_lt_pow2 hpos.ne').2 h
    unfold excess
    omega

theorem le_greatest (h : Representable units) : units ≤ greatest * stepsPerOne := by
  obtain ⟨hfits, hdvd⟩ := h
  have hpart : units / pow2 (excess units) ≤ pow2 53 - 1 :=
    Nat.le_sub_one_of_lt (div_pow2_excess_lt units)
  have hgap : pow2 (excess units) ≤ pow2 2045 :=
    Nat.le_of_dvd (pow2_pos _) (pow2_dvd_pow2 (excess_le_of_lt_overflow hfits))
  rw [greatest_steps, ← Nat.div_mul_cancel hdvd]
  exact Nat.mul_le_mul hpart hgap

theorem roundUnits_lt_overflow (hden : 0 < den)
    (h : num < (greatest + pow2 970) * stepsPerOne * den) : roundUnits num den < overflow := by
  obtain ⟨hfits, hdvd⟩ := representable_greatest
  refine Nat.lt_of_le_of_lt (roundUnits_le_of_near hden hdvd ?_) hfits
  have hfour : 4 * ((greatest + pow2 970) * stepsPerOne) =
      4 * (greatest * stepsPerOne) + 2 * pow2 (excess (greatest * stepsPerOne)) := by
    rw [← half_gap_greatest, Nat.add_mul]
    omega
  rw [← hfour, Nat.mul_assoc 4]
  omega

/-! ## Finite numbers -/

theorem isFinite_iff : a.isFinite = true ↔ ∃ p, a.value? = some p := by
  cases a with
  | nan => exact ⟨nofun, nofun⟩
  | infinite negative => exact ⟨nofun, nofun⟩
  | finite negative units fits => exact ⟨fun _ => ⟨_, rfl⟩, fun _ => rfl⟩

theorem isFinite_of_value? (h : a.value? = some p) : a.isFinite = true :=
  isFinite_iff.2 ⟨p, h⟩

theorem abs_value_le (h : a.value? = some p) : |p| ≤ greatest := by
  obtain ⟨negative, units, fits, rfl, rfl⟩ := value?_eq_some h
  rw [abs_div, abs_of_pos stepsPerOne_cast_pos, signed_abs, div_le_iff₀ stepsPerOne_cast_pos]
  exact_mod_cast le_greatest fits

theorem isFinite_ofUnits {negative : Bool} (h : roundUnits num den < overflow) :
    (ofUnits negative num den).isFinite = true :=
  isFinite_of_value? (value?_ofUnits h)

theorem isFinite_ofSteps {steps : ℤ}
    (h : |(steps : ℚ) / stepsPerOne| < (greatest + pow2 970 : ℕ)) :
    (ofSteps steps).isFinite = true := by
  rw [abs_div, abs_of_pos stepsPerOne_cast_pos, div_lt_iff₀ stepsPerOne_cast_pos,
    ← Int.cast_abs, Int.abs_eq_natAbs] at h
  have hsteps : steps.natAbs < (greatest + pow2 970) * stepsPerOne * 1 := by
    rw [Nat.mul_one]
    exact_mod_cast h
  exact isFinite_ofUnits (roundUnits_lt_overflow Nat.one_pos hsteps)

-- The definitions are opened first: closed ones would be compared by computing them.
theorem isFinite_ofInt {n : ℤ} (h : n.natAbs < greatest + pow2 970) :
    (ofInt n).isFinite = true := by
  have hsteps : n.natAbs * stepsPerOne < (greatest + pow2 970) * stepsPerOne * 1 := by
    rw [Nat.mul_one]
    exact Nat.mul_lt_mul_of_pos_right h stepsPerOne_pos
  have hfits := roundUnits_lt_overflow Nat.one_pos hsteps
  unfold ofInt ofRatio
  exact isFinite_ofUnits hfits

theorem isFinite_add (ha : a.isFinite = true) (hb : b.value? = some q) (hq : |q| < pow2 970) :
    (a + b).isFinite = true := by
  obtain ⟨p, hp⟩ := isFinite_iff.1 ha
  obtain ⟨steps, hsteps, hsum⟩ := value?_add hp hb
  have hnear : |p + q| < (greatest + pow2 970 : ℕ) := by
    rw [Nat.cast_add]
    exact (abs_add_le p q).trans_lt (add_lt_add_of_le_of_lt (abs_value_le hp) hq)
  rw [isFinite_iff, hsum, ← isFinite_iff]
  exact isFinite_ofSteps (hsteps ▸ hnear)

/-- Whole numbers up to the greatest number, and one step beyond it, are read as finite numbers. -/
theorem isFinite_ofInt_of_le {n : ℤ} (h : n.natAbs ≤ greatest) : (ofInt n).isFinite = true := by
  have hpos := pow2_pos 970
  exact isFinite_ofInt (by omega)

theorem isFinite_ofInt_succ {n : ℤ} (h : n.natAbs ≤ greatest) :
    (ofInt (n + 1)).isFinite = true := by
  have hone : 1 < pow2 970 := pow2_lt_pow2 (by omega : 0 < 970)
  exact isFinite_ofInt (by omega)

/-- The integer part of a finite number is no farther away than the greatest number. -/
theorem natAbs_floor_le (h : a.value? = some p) : ⌊p⌋.natAbs ≤ greatest := by
  obtain ⟨hlow, hhigh⟩ := abs_le.1 (abs_value_le h)
  have hbelow : -(greatest : ℤ) ≤ ⌊p⌋ := Int.le_floor.2 (by exact_mod_cast hlow)
  have habove : ⌊p⌋ ≤ (greatest : ℤ) := by exact_mod_cast (Int.floor_le p).trans hhigh
  omega

end Rulebound.Binary64
