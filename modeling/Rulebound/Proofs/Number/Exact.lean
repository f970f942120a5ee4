import Rulebound.Proofs.Number.Decimal

/-!
# Exact values

Every finite number is a fraction, and what is done with numbers is said about these fractions: the
order and the integer part are those of the fractions, a sum that a number can hold is exact, and
any other sum stays within the bounds that a number can hold.
-/

namespace Rulebound.Binary64

def value? : Binary64 → Option ℚ
  | finite negative units _ => some (signed negative units / stepsPerOne)
  | _ => none

variable {a b : Binary64} {p q : ℚ}

theorem value?_eq_some (h : a.value? = some p) :
    ∃ negative units fits, a = .finite negative units fits ∧
      p = signed negative units / stepsPerOne := by
  cases a with
  | nan => exact nomatch h
  | infinite negative => exact nomatch h
  | finite negative units fits => exact ⟨negative, units, fits, rfl, (Option.some.inj h).symm⟩

theorem stepsPerOne_cast_pos : (0 : ℚ) < stepsPerOne := by
  exact_mod_cast stepsPerOne_pos

theorem pow2_cast (e : ℕ) : ((pow2 e : ℕ) : ℚ) = 2 ^ e := by
  unfold pow2
  push_cast [Nat.pow_eq]
  rfl

/-! ## Order and integer part -/

theorem lt_eq_decide (ha : a.value? = some p) (hb : b.value? = some q) :
    a.lt b = decide (p < q) := by
  obtain ⟨s, m, hm, rfl, rfl⟩ := value?_eq_some ha
  obtain ⟨t, n, hn, rfl, rfl⟩ := value?_eq_some hb
  refine decide_eq_decide.2 ?_
  rw [div_lt_div_iff_of_pos_right stepsPerOne_cast_pos]
  exact_mod_cast Iff.rfl

theorem floor_eq (ha : a.value? = some p) : a.floor = .ok ⌊p⌋ := by
  obtain ⟨s, m, hm, rfl, rfl⟩ := value?_eq_some ha
  have hdiv : Int.fdiv (signed s m) stepsPerOne = signed s m / (stepsPerOne : ℤ) :=
    Int.fdiv_eq_ediv_of_nonneg _ (Int.natCast_nonneg _)
  rw [Rat.floor_intCast_div_natCast, ← hdiv]
  rfl

theorem value?_of_floor {n : ℤ} (h : a.floor = .ok n) : ∃ p, a.value? = some p ∧ n = ⌊p⌋ := by
  cases a with
  | nan => exact nomatch h
  | infinite negative => exact nomatch h
  | finite negative units fits =>
      have hvalue : (finite negative units fits).value? =
          some ((signed negative units : ℚ) / stepsPerOne) := rfl
      rw [floor_eq hvalue] at h
      exact ⟨_, hvalue, (Except.ok.inj h).symm⟩

/-! ## Rounding to a value -/

theorem signed_abs (negative : Bool) (units : ℕ) : |(signed negative units : ℚ)| = units := by
  cases negative <;> simp [signed]

/-- A count that numbers can have, of a part of one. -/
theorem representable_of_le {units e : ℕ} (hunits : units ≤ pow2 53) (he : e ≤ 1074) :
    Representable (units * pow2 e) := by
  refine ⟨?_, pow2_excess_dvd hunits⟩
  have hparts : units * pow2 e ≤ pow2 53 * pow2 1074 :=
    Nat.mul_le_mul hunits (Nat.le_of_dvd (pow2_pos _) (pow2_dvd_pow2 he))
  have hlarge : pow2 53 * pow2 1074 < overflow :=
    (pow2_add 53 1074).symm.trans_lt (pow2_lt_pow2 (by omega))
  omega

theorem value?_ofUnits {negative : Bool} {num den : ℕ} (h : roundUnits num den < overflow) :
    (ofUnits negative num den).value? =
      some ((signed negative (roundUnits num den) : ℚ) / stepsPerOne) := by
  unfold ofUnits
  rw [dif_pos h]
  rfl

/-- The sign of a whole number and its size make it up. -/
theorem signed_natAbs (n : ℤ) (scale : ℕ) :
    signed (decide (n < 0)) (n.natAbs * scale) = n * scale := by
  rcases lt_or_ge n 0 with hneg | hpos
  · have habs : ((n.natAbs : ℕ) : ℤ) = -n := by omega
    rw [decide_eq_true hneg]
    simp only [signed, if_true]
    push_cast [habs]
    ring
  · have habs : ((n.natAbs : ℕ) : ℤ) = n := by omega
    rw [decide_eq_false (not_lt.2 hpos)]
    simp only [signed, Bool.false_eq_true, if_false]
    push_cast [habs]
    ring

/-- A fraction with few bits is the value of the number nearest to it. -/
theorem value?_ofRatio {num : ℤ} {e : ℕ} (hnum : num.natAbs ≤ pow2 53) (he : e ≤ 1074) :
    (ofRatio num (pow2 e)).value? = some ((num : ℚ) / pow2 e) := by
  have hrep := representable_of_le hnum (Nat.sub_le 1074 e)
  have hsplit : stepsPerOne = pow2 (1074 - e) * pow2 e := by
    rw [← pow2_add, Nat.sub_add_cancel he]
    rfl
  have hround : roundUnits (num.natAbs * stepsPerOne) (pow2 e) =
      num.natAbs * pow2 (1074 - e) := by
    rw [hsplit, ← Nat.mul_assoc]
    exact roundUnits_exact (pow2_pos e) hrep.2
  have hfits : roundUnits (num.natAbs * stepsPerOne) (pow2 e) < overflow := by
    rw [hround]
    exact hrep.1
  have hpart : ((pow2 (1074 - e) : ℕ) : ℚ) ≠ 0 := by exact_mod_cast (pow2_pos _).ne'
  have hcast : (stepsPerOne : ℚ) = (pow2 e : ℕ) * (pow2 (1074 - e) : ℕ) := by
    rw [hsplit, Nat.cast_mul, mul_comm]
  unfold ofRatio
  rw [value?_ofUnits hfits, hround, signed_natAbs, hcast, Int.cast_mul, Int.cast_natCast,
    mul_div_mul_right _ _ hpart]

theorem value?_ofInt {n : ℤ} (h : n.natAbs ≤ pow2 53) : (ofInt n).value? = some (n : ℚ) := by
  have hone : ofInt n = ofRatio n (pow2 0) := rfl
  rw [hone, value?_ofRatio h (by decide), pow2_cast]
  norm_num

theorem value?_half : half.value? = some (1 / 2 : ℚ) := by
  have hpow : half = ofRatio 1 (pow2 1) := rfl
  rw [hpow, value?_ofRatio (by decide) (by decide), pow2_cast]
  norm_num

/-! ## Whole steps -/

theorem value?_ofSteps_of_representable {steps : ℤ} (h : Representable steps.natAbs) :
    (ofSteps steps).value? = some ((steps : ℚ) / stepsPerOne) := by
  have hround := roundUnits_exact Nat.one_pos h.2
  rw [Nat.mul_one] at hround
  have hfits : roundUnits steps.natAbs 1 < overflow := by
    rw [hround]
    exact h.1
  have hsigned := signed_natAbs steps 1
  rw [Nat.mul_one, Nat.cast_one, mul_one] at hsigned
  unfold ofSteps
  rw [value?_ofUnits hfits, hround, hsigned]

/-- A whole number of halves of which there are not too many is a value. -/
theorem value?_ofSteps_of_halves {steps whole : ℤ} (hwhole : whole.natAbs ≤ pow2 53)
    (h : (steps : ℚ) / stepsPerOne = whole / 2) :
    (ofSteps steps).value? = some ((whole : ℚ) / 2) := by
  have hsplit : stepsPerOne = pow2 1073 * pow2 1 := pow2_add 1073 1
  have hsteps : steps = whole * pow2 1073 := by
    rw [div_eq_div_iff stepsPerOne_cast_pos.ne' two_ne_zero, hsplit, Nat.cast_mul,
      pow2_cast 1] at h
    have hscaled : (steps : ℚ) = whole * (pow2 1073 : ℕ) := by linarith
    exact_mod_cast hscaled
  have habs : steps.natAbs = whole.natAbs * pow2 1073 := by
    rw [hsteps, Int.natAbs_mul, Int.natAbs_natCast]
  have hrep := representable_of_le hwhole (by decide : 1073 ≤ 1074)
  rw [← habs] at hrep
  rw [value?_ofSteps_of_representable hrep, h]

/-- A whole number of steps within a bound is rounded to a value within it. -/
theorem value?_ofSteps_of_le {steps : ℤ} {bound : ℕ} (hbound : bound ≤ pow2 53)
    (h : |(steps : ℚ) / stepsPerOne| ≤ bound) :
    ∃ r, (ofSteps steps).value? = some r ∧ |r| ≤ bound ∧
      (0 ≤ (steps : ℚ) / stepsPerOne → 0 ≤ r) := by
  have hrep := representable_of_le hbound (le_refl 1074)
  have hsize : steps.natAbs ≤ bound * pow2 1074 * 1 := by
    rw [abs_div, abs_of_pos stepsPerOne_cast_pos, div_le_iff₀ stepsPerOne_cast_pos] at h
    rw [Nat.mul_one]
    have hcast : ((steps.natAbs : ℕ) : ℚ) ≤ bound * stepsPerOne := by
      rwa [Nat.cast_natAbs, Int.cast_abs]
    exact_mod_cast hcast
  have hround := roundUnits_le Nat.one_pos hrep.2 hsize
  refine ⟨_, value?_ofUnits (Nat.lt_of_le_of_lt hround hrep.1), ?_, ?_⟩
  · rw [abs_div, abs_of_pos stepsPerOne_cast_pos, div_le_iff₀ stepsPerOne_cast_pos, signed_abs]
    exact_mod_cast hround
  · intro hnonneg
    have hsteps : 0 ≤ steps := by
      by_contra hneg
      have hbelow : (steps : ℚ) < 0 := by exact_mod_cast not_le.1 hneg
      exact absurd hnonneg (not_le.2 (div_neg_of_neg_of_pos hbelow stepsPerOne_cast_pos))
    rw [decide_eq_false (not_lt.2 hsteps)]
    exact div_nonneg (by simp [signed]) stepsPerOne_cast_pos.le

/-! ## Sums -/

theorem value?_neg (ha : a.value? = some p) : a.neg.value? = some (-p) := by
  obtain ⟨s, m, hm, rfl, rfl⟩ := value?_eq_some ha
  have hvalue : (finite s m hm).neg.value? = some ((signed (!s) m : ℚ) / stepsPerOne) := rfl
  rw [hvalue, ← neg_div]
  congr 2
  cases s <;> simp only [signed] <;> push_cast <;> simp

/-- The exact sum in steps, which the sum is rounded from. -/
theorem value?_add (ha : a.value? = some p) (hb : b.value? = some q) :
    ∃ steps : ℤ, p + q = steps / stepsPerOne ∧ (a + b).value? = (ofSteps steps).value? := by
  obtain ⟨s, m, hm, rfl, rfl⟩ := value?_eq_some ha
  obtain ⟨t, n, hn, rfl, rfl⟩ := value?_eq_some hb
  refine ⟨signed s m + signed t n, by push_cast; rw [add_div], ?_⟩
  have hsum : finite s m hm + finite t n hn =
      if signed s m + signed t n = 0 then ofUnits (s && t) 0 1
      else ofSteps (signed s m + signed t n) := rfl
  rw [hsum]
  split
  · rename_i hzero
    have hnone : roundUnits 0 1 = 0 := by decide
    have hfits : roundUnits 0 1 < overflow := hnone ▸ pow2_pos 2098
    have hvalue : ∀ negative, (ofUnits negative 0 1).value? = some 0 := by
      intro negative
      have hzero : signed negative 0 = 0 := by cases negative <;> rfl
      rw [value?_ofUnits hfits, hnone, hzero, Int.cast_zero, zero_div]
    rw [hzero, hvalue]
    exact (hvalue false).symm
  · rfl

/-- A sum within a bound is rounded to a value within it. -/
theorem add_within {bound : ℕ} (hbound : bound ≤ pow2 53) (ha : a.value? = some p)
    (hb : b.value? = some q) (h : |p + q| ≤ bound) :
    ∃ r, (a + b).value? = some r ∧ |r| ≤ bound ∧ (0 ≤ p + q → 0 ≤ r) := by
  obtain ⟨steps, hsteps, hsum⟩ := value?_add ha hb
  rw [hsteps] at h ⊢
  rw [hsum]
  exact value?_ofSteps_of_le hbound h

/-- A sum of not too many halves is exact. -/
theorem add_halves {whole : ℤ} (hwhole : whole.natAbs ≤ pow2 53) (ha : a.value? = some p)
    (hb : b.value? = some q) (h : p + q = whole / 2) : (a + b).value? = some ((whole : ℚ) / 2) := by
  obtain ⟨steps, hsteps, hsum⟩ := value?_add ha hb
  rw [hsum]
  exact value?_ofSteps_of_halves hwhole (hsteps ▸ h)

theorem add_exact {c : Binary64} (ha : a.value? = some p) (hb : b.value? = some q)
    (hc : c.value? = some (p + q)) : (a + b).value? = some (p + q) := by
  obtain ⟨steps, hsteps, hsum⟩ := value?_add ha hb
  obtain ⟨negative, units, hrep, -, hunits⟩ := value?_eq_some hc
  have hsame : steps = signed negative units := by
    rw [hsteps, div_left_inj' stepsPerOne_cast_pos.ne'] at hunits
    exact_mod_cast hunits
  have habs : steps.natAbs = units := by
    rw [hsame]
    cases negative <;> simp [signed]
  rw [hsum, hsteps]
  exact value?_ofSteps_of_representable (habs ▸ hrep)

theorem sub_exact {c : Binary64} (ha : a.value? = some p) (hb : b.value? = some q)
    (hc : c.value? = some (p - q)) : (a - b).value? = some (p - q) := by
  rw [sub_eq_add_neg] at hc ⊢
  exact add_exact ha (value?_neg hb) hc

end Rulebound.Binary64
