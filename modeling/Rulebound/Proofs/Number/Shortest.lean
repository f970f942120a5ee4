import Rulebound.Proofs.Number.Decimal

/-!
# Shortest decimals

With seventeen digits the multiples of the last place lie closer together than the values that are
read as one number, so one of them is among those values and a shortest decimal is found. Whatever
is found is read back as the number.
-/

namespace Rulebound.Binary64

variable {units : ℕ}

/-! ## Room for seventeen digits -/

theorem gapBelow_pos (units : ℕ) : 0 < gapBelow units := by
  have hulp := pow2_pos (excess units)
  unfold gapBelow
  dsimp only
  split
  · omega
  · exact hulp

/-- A sixteenth decimal place of a count is narrower than the values that are read as it. -/
theorem units_lt_gaps (units : ℕ) :
    2 * units < pow10 16 * (gapBelow units + pow2 (excess units)) := by
  have hsmall := lt_pow2_of_excess units
  have hulp := pow2_pos (excess units)
  rw [pow2_add] at hsmall
  have hpow2 : pow2 53 = 9007199254740992 := rfl
  have hpow10 : pow10 16 = 10000000000000000 := rfl
  by_cases hhalved : units = pow2 units.log2 ∧ 1 < pow2 (excess units)
  · -- A power of two has the least significand, which makes up for the half gap.
    obtain ⟨hpow, hdropped⟩ := hhalved
    have hlog : units.log2 = 52 + excess units := by
      cases hcount : excess units with
      | zero =>
          rw [hcount] at hdropped
          exact absurd hdropped (by decide)
      | succ e =>
          unfold excess at hcount
          omega
    rw [hlog, pow2_add] at hpow
    have hpow52 : pow2 52 = 4503599627370496 := rfl
    rw [hpow52] at hpow
    have hgap := gapBelow_pos units
    rw [hpow10]
    omega
  · rw [gapBelow_of_not_pow2 hhalved]
    rw [hpow2] at hsmall
    rw [hpow10]
    omega

def ones (units : ℕ) : ℚ :=
  units / stepsPerOne

theorem ones_scaled (units : ℕ) : ones units * stepsPerOne = units := by
  have hsteps : (stepsPerOne : ℚ) ≠ 0 := by exact_mod_cast stepsPerOne_pos.ne'
  unfold ones
  rw [div_mul_cancel₀ _ hsteps]

/-- The point is placed so that the number has no zeros after it. -/
theorem le_ones (hunits : 0 < units) : (10 : ℚ) ^ (decimalPoint units - 1) ≤ ones units := by
  have hsteps : (0 : ℚ) < stepsPerOne := by exact_mod_cast stepsPerOne_pos
  have hscaled : 0 < units * pow10 400 / stepsPerOne := by
    have hsmall : stepsPerOne ≤ pow10 400 := pow2_le_pow10 (by omega)
    refine Nat.div_pos (hsmall.trans ?_) stepsPerOne_pos
    exact Nat.le_mul_of_pos_left _ hunits
  have hpositive : 0 < (digitsOf (units * pow10 400 / stepsPerOne)).length :=
    List.length_pos_iff.2 (digitsOf_ne_nil _)
  have hlow : pow10 ((digitsOf (units * pow10 400 / stepsPerOne)).length - 1) * stepsPerOne ≤
      units * pow10 400 :=
    (Nat.le_div_iff_mul_le stepsPerOne_pos).1 (pow10_length_le hscaled)
  have hcast : ((pow10 ((digitsOf (units * pow10 400 / stepsPerOne)).length - 1) : ℕ) : ℚ) *
      stepsPerOne ≤ units * (pow10 400 : ℕ) := by exact_mod_cast hlow
  have hten : (0 : ℚ) < (pow10 400 : ℕ) := by exact_mod_cast pow10_pos 400
  have hpoint : (10 : ℚ) ^ (decimalPoint units - 1) =
      (pow10 ((digitsOf (units * pow10 400 / stepsPerOne)).length - 1) : ℕ) /
        (pow10 400 : ℕ) := by
    have hexponent : decimalPoint units - 1 =
        (((digitsOf (units * pow10 400 / stepsPerOne)).length - 1 : ℕ) : ℤ) - ((400 : ℕ) : ℤ) := by
      unfold decimalPoint
      omega
    rw [hexponent, pow10_cast, pow10_cast, ← zpow_natCast, ← zpow_natCast,
      ← zpow_sub₀ (by norm_num : (10 : ℚ) ≠ 0)]
  rw [hpoint, div_le_iff₀ hten]
  unfold ones
  rw [div_mul_eq_mul_div, le_div_iff₀ hsteps]
  exact hcast

/-! ## Neighbours on a grid -/

def gridBelow (units : ℕ) (exponent : ℤ) : ℕ :=
  units * pow10 (-exponent).toNat / (pow10 exponent.toNat * stepsPerOne)

theorem gridBelow_bounds (units : ℕ) (exponent : ℤ) :
    (gridBelow units exponent : ℚ) * (10 : ℚ) ^ exponent ≤ ones units ∧
      ones units < ((gridBelow units exponent + 1 : ℕ) : ℚ) * (10 : ℚ) ^ exponent := by
  have hstep : 0 < pow10 exponent.toNat * stepsPerOne :=
    Nat.mul_pos (pow10_pos _) stepsPerOne_pos
  have hsteps : (0 : ℚ) < stepsPerOne := by exact_mod_cast stepsPerOne_pos
  have hden : (0 : ℚ) < (pow10 (-exponent).toNat : ℕ) := by exact_mod_cast pow10_pos _
  have hlow : gridBelow units exponent * (pow10 exponent.toNat * stepsPerOne) ≤
      units * pow10 (-exponent).toNat := Nat.div_mul_le_self _ _
  have hhigh : units * pow10 (-exponent).toNat <
      (gridBelow units exponent + 1) * (pow10 exponent.toNat * stepsPerOne) := by
    rw [Nat.mul_comm (gridBelow units exponent + 1)]
    exact Nat.lt_mul_div_succ _ hstep
  rw [← pow10_div_pow10]
  unfold ones
  constructor
  · rw [mul_div_assoc', div_le_div_iff₀ hden hsteps, mul_assoc]
    exact_mod_cast hlow
  · rw [mul_div_assoc', div_lt_div_iff₀ hsteps hden, mul_assoc]
    exact_mod_cast hhigh

/-- Two neighbours on a grid that is narrower than the values read as a count: one of them is
among these values. -/
theorem reads_of_neighbours {v step : ℚ} (hlow : v ≤ ones units) (hhigh : ones units < v + step)
    (hnarrow : 4 * step * stepsPerOne <
      ((2 * (gapBelow units + pow2 (excess units)) : ℕ) : ℚ)) (hgap : gapBelow units ≤ units) :
    Reads units v ∨ Reads units (v + step) := by
  have hsteps : (0 : ℚ) < stepsPerOne := by exact_mod_cast stepsPerOne_pos
  have hones := ones_scaled units
  have hulp : (0 : ℚ) < pow2 (excess units) := by exact_mod_cast pow2_pos _
  have hpos : (0 : ℚ) < gapBelow units := by exact_mod_cast gapBelow_pos units
  have hbelow := mul_le_mul_of_nonneg_right hlow hsteps.le
  have habove := mul_lt_mul_of_pos_right hhigh hsteps
  have hend : ((4 * units - 2 * gapBelow units : ℕ) : ℚ) = 4 * units - 2 * gapBelow units := by
    rw [Nat.cast_sub (by omega)]
    push_cast
    rfl
  push_cast at hnarrow
  rw [hones] at hbelow habove
  by_cases hnear : ((4 * units - 2 * gapBelow units : ℕ) : ℚ) < 4 * v * stepsPerOne
  · have htop : 4 * v * stepsPerOne < ((4 * units + 2 * pow2 (excess units) : ℕ) : ℚ) := by
      push_cast
      linarith
    exact .inl ⟨hnear.le, htop.le, fun _ => ⟨hnear, htop⟩⟩
  · have hfar := not_lt.1 hnear
    rw [hend] at hfar
    have hbottom : ((4 * units - 2 * gapBelow units : ℕ) : ℚ) <
        4 * (v + step) * stepsPerOne := by
      rw [hend]
      linarith
    have htop : 4 * (v + step) * stepsPerOne <
        ((4 * units + 2 * pow2 (excess units) : ℕ) : ℚ) := by
      push_cast
      linarith
    exact .inr ⟨hbottom.le, htop.le, fun _ => ⟨hbottom, htop⟩⟩

/-- Seventeen digits are always enough. -/
theorem reads_seventeen (hunits : 0 < units) (hrep : Representable units) :
    Reads units (gridBelow units (decimalPoint units - 17) *
        (10 : ℚ) ^ (decimalPoint units - 17)) ∨
      Reads units ((gridBelow units (decimalPoint units - 17) + 1 : ℕ) *
        (10 : ℚ) ^ (decimalPoint units - 17)) := by
  obtain ⟨hlow, hhigh⟩ := gridBelow_bounds units (decimalPoint units - 17)
  have hsteps : (0 : ℚ) < stepsPerOne := by exact_mod_cast stepsPerOne_pos
  have hnext : ((gridBelow units (decimalPoint units - 17) + 1 : ℕ) : ℚ) *
      (10 : ℚ) ^ (decimalPoint units - 17) =
      gridBelow units (decimalPoint units - 17) * (10 : ℚ) ^ (decimalPoint units - 17) +
        (10 : ℚ) ^ (decimalPoint units - 17) := by
    push_cast
    ring
  rw [hnext] at hhigh ⊢
  have hgap : gapBelow units ≤ units :=
    (gapBelow_le units).trans (Nat.le_of_dvd hunits hrep.2)
  refine reads_of_neighbours hlow hhigh ?_ hgap
  have hplace : (10 : ℚ) ^ (decimalPoint units - 17) * (pow10 16 : ℕ) =
      (10 : ℚ) ^ (decimalPoint units - 1) := by
    have hexponent : decimalPoint units - 17 + ((16 : ℕ) : ℤ) = decimalPoint units - 1 := by omega
    rw [pow10_cast, ← zpow_natCast, ← zpow_add₀ (by norm_num : (10 : ℚ) ≠ 0), hexponent]
  have hsize := mul_le_mul_of_nonneg_right (le_ones hunits) hsteps.le
  rw [ones_scaled, ← hplace] at hsize
  have hgaps : (2 : ℚ) * units <
      (pow10 16 : ℕ) * ((gapBelow units + pow2 (excess units) : ℕ) : ℚ) := by
    exact_mod_cast units_lt_gaps units
  have hten : (0 : ℚ) < (pow10 16 : ℕ) := by exact_mod_cast pow10_pos 16
  have hscaled : (pow10 16 : ℕ) * (4 * (10 : ℚ) ^ (decimalPoint units - 17) * stepsPerOne) <
      (pow10 16 : ℕ) * ((2 * (gapBelow units + pow2 (excess units)) : ℕ) : ℚ) := by
    rw [Nat.cast_mul, Nat.cast_ofNat]
    generalize ((stepsPerOne : ℕ) : ℚ) = steps at hsize ⊢
    linarith
  exact lt_of_mul_lt_mul_left hscaled hten.le

/-! ## The search for the fewest digits -/

theorem onGrid?_reads {exponent : ℤ} {count : ℕ} (h : onGrid? units exponent = some count) :
    Reads units (count * (10 : ℚ) ^ exponent) := by
  rw [← readsAs_iff]
  unfold onGrid? at h
  dsimp only at h
  cases hbelow : readsAs units (units * pow10 (-exponent).toNat /
      (pow10 exponent.toNat * stepsPerOne)) exponent with
  | true =>
      cases habove : readsAs units (units * pow10 (-exponent).toNat /
          (pow10 exponent.toNat * stepsPerOne) + 1) exponent with
      | true =>
          simp only [hbelow, habove] at h
          split at h
          · rw [← Option.some.inj h]
            exact hbelow
          · rw [← Option.some.inj h]
            exact habove
      | false =>
          simp only [hbelow, habove, Option.some.injEq] at h
          rw [← h]
          exact hbelow
  | false =>
      cases habove : readsAs units (units * pow10 (-exponent).toNat /
          (pow10 exponent.toNat * stepsPerOne) + 1) exponent with
      | true =>
          simp only [hbelow, habove, Option.some.injEq] at h
          rw [← h]
          exact habove
      | false => simp [hbelow, habove] at h

theorem onGrid?_isSome {exponent : ℤ}
    (h : readsAs units (gridBelow units exponent) exponent = true ∨
      readsAs units (gridBelow units exponent + 1) exponent = true) :
    ∃ count, onGrid? units exponent = some count := by
  unfold gridBelow at h
  unfold onGrid?
  dsimp only
  cases hbelow : readsAs units (units * pow10 (-exponent).toNat /
      (pow10 exponent.toNat * stepsPerOne)) exponent with
  | true =>
      cases readsAs units (units * pow10 (-exponent).toNat /
          (pow10 exponent.toNat * stepsPerOne) + 1) exponent with
      | true =>
          dsimp only
          split
          · exact ⟨_, rfl⟩
          · exact ⟨_, rfl⟩
      | false => exact ⟨_, rfl⟩
  | false =>
      have habove := h.resolve_left (by simp [hbelow])
      rw [habove]
      exact ⟨_, rfl⟩

/-- The search ends with a decimal that is read as the count, if it would at its last place. -/
theorem shortestAux_spec {point : ℤ} {last : ℕ}
    (hlast : ∃ count, onGrid? units (point - last) = some count) {fuel size : ℕ}
    (hfuel : size + fuel = last + 1) (hpos : 0 < fuel) :
    ∃ (count : ℕ) (exponent : ℤ), Reads units (count * (10 : ℚ) ^ exponent) ∧
      shortestAux units point fuel size = some (Decimal.ofCount count exponent).trim := by
  induction fuel generalizing size with
  | zero => omega
  | succ fuel ih =>
      unfold shortestAux
      cases hgrid : onGrid? units (point - size) with
      | some count => exact ⟨count, point - size, onGrid?_reads hgrid, rfl⟩
      | none =>
          rcases Nat.eq_zero_or_pos fuel with rfl | hmore
          · obtain ⟨count, hcount⟩ := hlast
            have hsize : size = last := by omega
            rw [hsize, hcount] at hgrid
            exact nomatch hgrid
          · exact ih (by omega) hmore

theorem shortest_spec (hunits : 0 < units) (hrep : Representable units) :
    ∃ (count : ℕ) (exponent : ℤ), Reads units (count * (10 : ℚ) ^ exponent) ∧
      shortest units = (Decimal.ofCount count exponent).trim := by
  have hlast : ∃ count, onGrid? units (decimalPoint units - (17 : ℕ)) = some count := by
    refine onGrid?_isSome ?_
    rw [readsAs_iff, readsAs_iff]
    exact reads_seventeen hunits hrep
  obtain ⟨count, exponent, hreads, hfound⟩ :=
    shortestAux_spec hlast (by omega : 1 + 17 = 17 + 1) (by omega)
  refine ⟨count, exponent, hreads, ?_⟩
  unfold shortest
  rw [hfound]
  rfl

/-! ## Reading a shortest decimal back -/

theorem trim_cons {digit : ℕ} (hne : digit ≠ 0) (rest : List ℕ) (point : ℤ) :
    ∃ kept, (Decimal.trim ⟨digit :: rest, point⟩).digits = digit :: kept := by
  unfold Decimal.trim
  dsimp only
  rw [List.reverse_cons, List.dropWhile_append]
  split
  · exact ⟨[], by simp [hne]⟩
  · exact ⟨(rest.reverse.dropWhile (· == 0)).reverse, by simp⟩

theorem AreDigits.trim {d : Decimal} (h : AreDigits d.digits) : AreDigits d.trim.digits := by
  intro digit hmem
  have hdropped := (List.dropWhile_sublist (· == 0)).mem (List.mem_reverse.1 hmem)
  exact h digit (List.mem_reverse.1 hdropped)

/-- The shortest decimal of a number has digits that do not begin with a zero, and its value is
read as the number. -/
theorem shortest_reads (hunits : 0 < units) (hrep : Representable units) :
    (∃ digit rest, (shortest units).digits = digit :: rest ∧ digit ≠ 0) ∧
      AreDigits (shortest units).digits ∧ Reads units (shortest units).value := by
  obtain ⟨count, exponent, hreads, hshortest⟩ := shortest_spec hunits hrep
  have hcount : 0 < count := by
    obtain ⟨hlarge, -⟩ := hreads.bounds hunits hrep
    by_contra hzero
    rw [Nat.eq_zero_of_not_pos hzero, Nat.cast_zero, zero_mul, mul_zero, zero_mul] at hlarge
    exact absurd hlarge (not_le.2 one_pos)
  obtain ⟨digit, rest, hdigits, hne⟩ := digitsOf_eq_cons hcount
  rw [hshortest]
  refine ⟨?_, ?_, ?_⟩
  · unfold Decimal.ofCount
    dsimp only
    rw [hdigits]
    obtain ⟨kept, hkept⟩ := trim_cons hne rest (exponent + (digit :: rest).length)
    exact ⟨digit, kept, hkept, hne⟩
  · exact AreDigits.trim (areDigits_digitsOf count)
  · rw [Decimal.value_trim, Decimal.value_ofCount]
    exact hreads

end Rulebound.Binary64
