import Rulebound.Number.Decimal

/-!
# Rounding to a given count

A quotient that lies within half a gap of a representable count is rounded to that count. The gap
below a power of two is half as wide as the one above it, so there are three places where the
quotient can lie: from the count upwards, below it, and below a power of two.
-/

namespace Rulebound.Binary64

variable {num den units : Nat}

/-! ## How many low bits are dropped -/

theorem excess_eq_zero {n : Nat} (h : n < pow2 53) : excess n = 0 := by
  unfold excess
  rcases Nat.eq_zero_or_pos n with rfl | hpos
  · simp
  · have hlog := (log2_lt_iff_lt_pow2 (by omega)).2 h
    omega

theorem excess_eq {n e : Nat} (hlow : pow2 (52 + e) ≤ n) (hhigh : n < pow2 (53 + e)) :
    excess n = e := by
  have hpos : n ≠ 0 := by
    have hpow := pow2_pos (52 + e)
    omega
  have hbelow := (log2_lt_iff_lt_pow2 hpos).2 hhigh
  have habove : ¬ n.log2 < 52 + e := fun hlt =>
    Nat.not_lt.2 hlow ((log2_lt_iff_lt_pow2 hpos).1 hlt)
  unfold excess
  omega

theorem pow2_le_of_excess {e : Nat} (h : excess units = e + 1) : pow2 (52 + (e + 1)) ≤ units := by
  apply Classical.byContradiction
  intro hlow
  rcases Nat.eq_zero_or_pos units with rfl | hpos
  · simp [excess] at h
  · have hlog := (log2_lt_iff_lt_pow2 (by omega)).2 (Nat.not_le.1 hlow)
    unfold excess at h
    omega

theorem lt_pow2_of_excess (units : Nat) : units < pow2 (53 + excess units) := by
  have hdiv := div_pow2_excess_lt units
  rw [Nat.div_lt_iff_lt_mul (pow2_pos _), ← pow2_add] at hdiv
  exact hdiv

/-! ## Rounding down and up -/

/-- The count of whole steps is kept if no more than half a step remains. -/
theorem roundUnits_eq_floor {whole e : Nat} (hexcess : excess (num / den) = e)
    (hfloor : whole * (den * pow2 e) ≤ num)
    (hrest : 2 * (num - whole * (den * pow2 e)) ≤ den * pow2 e)
    (htie : 2 * (num - whole * (den * pow2 e)) = den * pow2 e → whole % 2 = 0)
    (hpos : 0 < den) : roundUnits num den = whole * pow2 e := by
  have hstep : 0 < den * pow2 e := Nat.mul_pos hpos (pow2_pos e)
  have hwhole : num / den / pow2 e = whole := by
    rw [Nat.div_div_eq_div_mul]
    apply Nat.div_eq_of_lt_le hfloor
    rw [Nat.add_mul]
    omega
  unfold roundUnits
  simp only [hexcess, hwhole]
  have hdown : ¬ (den * pow2 e < 2 * (num - whole * (den * pow2 e))) := Nat.not_lt.2 hrest
  by_cases hhalf : 2 * (num - whole * (den * pow2 e)) = den * pow2 e
  · have heven := htie hhalf
    simp [heven, hhalf]
  · simp [hdown, hhalf]

/-- The count of whole steps grows by one if at least half a step remains. -/
theorem roundUnits_eq_succ {whole e : Nat} (hexcess : excess (num / den) = e)
    (hfloor : whole * (den * pow2 e) ≤ num) (hbelow : num < (whole + 1) * (den * pow2 e))
    (hrest : den * pow2 e ≤ 2 * (num - whole * (den * pow2 e)))
    (htie : 2 * (num - whole * (den * pow2 e)) = den * pow2 e → whole % 2 = 1) :
    roundUnits num den = (whole + 1) * pow2 e := by
  have hwhole : num / den / pow2 e = whole := by
    rw [Nat.div_div_eq_div_mul]
    exact Nat.div_eq_of_lt_le hfloor hbelow
  unfold roundUnits
  simp only [hexcess, hwhole]
  by_cases hhalf : 2 * (num - whole * (den * pow2 e)) = den * pow2 e
  · have hodd := htie hhalf
    simp [hodd, hhalf]
  · have hup : den * pow2 e < 2 * (num - whole * (den * pow2 e)) := by omega
    simp [hup]

/-! ## Quotients near a count -/

/-- A quotient lies within half a gap of a count; at the very ends only if its significand is
even. All in quarter steps. -/
structure IsNear (units num den : Nat) : Prop where
  low : (4 * units - 2 * gapBelow units) * den ≤ 4 * num
  high : 4 * num ≤ (4 * units + 2 * pow2 (excess units)) * den
  strict : units / pow2 (excess units) % 2 = 1 →
    (4 * units - 2 * gapBelow units) * den < 4 * num ∧
      4 * num < (4 * units + 2 * pow2 (excess units)) * den

/-- What `units` is with its significand and its dropped bits, and the size of a step of it. -/
theorem units_split (h : pow2 (excess units) ∣ units) (den : Nat) :
    units = units / pow2 (excess units) * pow2 (excess units) ∧
      units * den = units / pow2 (excess units) * (den * pow2 (excess units)) := by
  have hunits : units = units / pow2 (excess units) * pow2 (excess units) :=
    (Nat.div_mul_cancel h).symm
  refine ⟨hunits, ?_⟩
  conv => lhs; rw [hunits]
  rw [Nat.mul_assoc, Nat.mul_comm (pow2 _) den]

theorem roundUnits_of_above (hpos : 0 < den) (hrep : pow2 (excess units) ∣ units)
    (h : IsNear units num den) (habove : units * den ≤ num) : roundUnits num den = units := by
  obtain ⟨hunits, hscaled⟩ := units_split hrep den
  have hstep := pow2_pos (excess units)
  have hfloor : units ≤ num / den := (Nat.le_div_iff_mul_le hpos).2 habove
  have hhigh := h.high
  rw [Nat.add_mul, Nat.mul_assoc, Nat.mul_assoc, Nat.mul_comm (pow2 _) den] at hhigh
  have hnext : num / den < units + pow2 (excess units) := by
    rw [Nat.div_lt_iff_lt_mul hpos, Nat.add_mul, Nat.mul_comm (pow2 _) den]
    have hwide : 0 < den * pow2 (excess units) := Nat.mul_pos hpos hstep
    omega
  have hexcess : excess (num / den) = excess units := by
    cases hcount : excess units with
    | zero =>
        rw [hcount] at hnext
        have hsame : num / den = units := by
          simp only [pow2, Nat.pow_eq, Nat.pow_zero] at hnext
          omega
        rw [hsame, hcount]
    | succ e =>
        refine excess_eq (Nat.le_trans (pow2_le_of_excess hcount) hfloor) ?_
        have hsmall := div_pow2_excess_lt units
        rw [hcount] at hnext hunits hsmall
        have hlast : (units / pow2 (e + 1) + 1) * pow2 (e + 1) ≤ pow2 53 * pow2 (e + 1) :=
          Nat.mul_le_mul_right _ hsmall
        rw [Nat.add_mul, ← pow2_add] at hlast
        omega
  have heven : 2 * (num - units / pow2 (excess units) * (den * pow2 (excess units))) =
      den * pow2 (excess units) → units / pow2 (excess units) % 2 = 0 := by
    intro htie
    apply Classical.byContradiction
    intro hodd
    have hstrict := (h.strict (by omega)).2
    rw [Nat.add_mul, Nat.mul_assoc, Nat.mul_assoc, Nat.mul_comm (pow2 _) den] at hstrict
    omega
  have hround : roundUnits num den = units / pow2 (excess units) * pow2 (excess units) :=
    roundUnits_eq_floor hexcess (by omega) (by omega) heven hpos
  rw [hround, ← hunits]

theorem gapBelow_of_not_pow2 (h : ¬ (units = pow2 units.log2 ∧ 1 < pow2 (excess units))) :
    gapBelow units = pow2 (excess units) := by
  simp only [gapBelow]
  rw [if_neg h]

/-- A count whose lower gap is not halved is no power of two, if bits of it are dropped. -/
theorem ne_pow2_of_gapBelow {e : Nat} (hexcess : excess units = e + 1)
    (h : gapBelow units = pow2 (excess units)) : units ≠ pow2 (52 + (e + 1)) := by
  rintro rfl
  have hdouble : pow2 (e + 1) = pow2 e * 2 := Nat.pow_succ ..
  have hpos := pow2_pos e
  simp only [gapBelow, hexcess, log2_pow2, true_and] at h
  rw [if_pos (by omega)] at h
  omega

/-- Where bits are dropped, the significand has all its 53 bits. -/
theorem pow2_le_significand {e : Nat} (hexcess : excess units = e + 1) :
    pow2 52 ≤ units / pow2 (e + 1) := by
  rw [Nat.le_div_iff_mul_le (pow2_pos _), ← pow2_add]
  exact pow2_le_of_excess hexcess

theorem roundUnits_of_below (hpos : 0 < den) (hunits : 0 < units)
    (hrep : pow2 (excess units) ∣ units) (h : IsNear units num den) (hbelow : num < units * den)
    (hgap : gapBelow units = pow2 (excess units)) : roundUnits num den = units := by
  obtain ⟨hsplit, hscaled⟩ := units_split hrep den
  have hstep := pow2_pos (excess units)
  -- The step below the count: its significand is one less.
  obtain ⟨whole, hwhole⟩ : ∃ whole, units / pow2 (excess units) = whole + 1 := by
    refine ⟨units / pow2 (excess units) - 1, ?_⟩
    have hone : 0 < units / pow2 (excess units) := Nat.div_pos (Nat.le_of_dvd hunits hrep) hstep
    omega
  rw [hwhole, Nat.add_mul, Nat.one_mul] at hsplit hscaled
  have hlow := h.low
  rw [hgap, Nat.sub_mul, Nat.mul_assoc, Nat.mul_assoc, Nat.mul_comm (pow2 _) den, hscaled] at hlow
  have hwide : 0 < den * pow2 (excess units) := Nat.mul_pos hpos hstep
  have hfloor : whole * (den * pow2 (excess units)) ≤ num := by omega
  have hunder : num / den < units := (Nat.div_lt_iff_lt_mul hpos).2 hbelow
  have hexcess : excess (num / den) = excess units := by
    have hsmall := lt_pow2_of_excess units
    cases hcount : excess units with
    | zero =>
        rw [hcount] at hsmall
        exact excess_eq_zero (Nat.lt_trans hunder hsmall)
    | succ e =>
        have hne := ne_pow2_of_gapBelow hcount hgap
        have hfull := pow2_le_significand hcount
        rw [hcount] at hwhole hsplit hfloor hsmall
        have hlarge : pow2 52 ≤ whole := by
          apply Classical.byContradiction
          intro hless
          have hlast : whole + 1 = pow2 52 := by omega
          have hpow : (whole + 1) * pow2 (e + 1) = units := by rw [Nat.add_mul, Nat.one_mul, hsplit]
          rw [hlast, ← pow2_add] at hpow
          exact hne hpow.symm
        refine excess_eq ?_ (Nat.lt_trans hunder hsmall)
        rw [Nat.le_div_iff_mul_le hpos, pow2_add, Nat.mul_assoc, Nat.mul_comm (pow2 (e + 1)) den]
        exact Nat.le_trans (Nat.mul_le_mul_right _ hlarge) hfloor
  have hodd : 2 * (num - whole * (den * pow2 (excess units))) = den * pow2 (excess units) →
      whole % 2 = 1 := by
    intro htie
    apply Classical.byContradiction
    intro heven
    have hstrict := (h.strict (by omega)).1
    rw [hgap, Nat.sub_mul, Nat.mul_assoc, Nat.mul_assoc, Nat.mul_comm (pow2 _) den, hscaled]
      at hstrict
    omega
  have hround : roundUnits num den = (whole + 1) * pow2 (excess units) :=
    roundUnits_eq_succ hexcess hfloor (by rw [Nat.add_mul]; omega) (by omega) hodd
  rw [hround, Nat.add_mul, Nat.one_mul, ← hsplit]

theorem roundUnits_of_below_pow2 (hpos : 0 < den) (h : IsNear units num den)
    (hbelow : num < units * den) {e : Nat} (hexcess : excess units = e + 1)
    (hpow : units = pow2 (52 + (e + 1))) : roundUnits num den = units := by
  -- Below a power of two the steps are half as wide, and the significand there is all ones.
  have hunits : units = pow2 53 * pow2 e := by
    rw [hpow, ← pow2_add]
    congr 1
    omega
  have hdouble : pow2 (e + 1) = pow2 e * 2 := Nat.pow_succ ..
  have hstep := pow2_pos e
  have hgap : gapBelow units = pow2 e := by
    simp only [gapBelow, hexcess]
    rw [if_pos ⟨by rw [hpow, log2_pow2], by omega⟩]
    omega
  obtain ⟨whole, hwhole⟩ : ∃ whole, pow2 53 = whole + 1 := ⟨pow2 53 - 1, rfl⟩
  have hodd : whole % 2 = 1 := by
    simp only [pow2, Nat.pow_eq] at hwhole
    omega
  have hfull : pow2 52 ≤ whole := by
    simp only [pow2, Nat.pow_eq] at hwhole ⊢
    omega
  rw [hwhole] at hunits
  have hscaled : units * den = whole * (den * pow2 e) + den * pow2 e := by
    rw [hunits, Nat.mul_assoc, Nat.mul_comm (pow2 e) den, Nat.add_mul, Nat.one_mul]
  have hlow := h.low
  rw [hgap, Nat.sub_mul, Nat.mul_assoc, Nat.mul_assoc, Nat.mul_comm (pow2 _) den, hscaled] at hlow
  have hfloor : whole * (den * pow2 e) ≤ num := by omega
  have hquotient : excess (num / den) = e := by
    refine excess_eq ?_ ?_
    · rw [Nat.le_div_iff_mul_le hpos, pow2_add, Nat.mul_assoc, Nat.mul_comm (pow2 e) den]
      exact Nat.le_trans (Nat.mul_le_mul_right _ hfull) hfloor
    · rw [Nat.div_lt_iff_lt_mul hpos, pow2_add, hwhole, ← hunits]
      exact hbelow
  have hround : roundUnits num den = (whole + 1) * pow2 e :=
    roundUnits_eq_succ hquotient hfloor (by rw [Nat.add_mul]; omega) (by omega) fun _ => hodd
  rw [hround, ← hunits]

theorem roundUnits_of_isNear (hpos : 0 < den) (hunits : 0 < units)
    (hrep : pow2 (excess units) ∣ units) (h : IsNear units num den) :
    roundUnits num den = units := by
  by_cases habove : units * den ≤ num
  · exact roundUnits_of_above hpos hrep h habove
  · have hbelow : num < units * den := Nat.not_le.1 habove
    by_cases hhalved : units = pow2 units.log2 ∧ 1 < pow2 (excess units)
    · obtain ⟨hpow, hdropped⟩ := hhalved
      cases hcount : excess units with
      | zero =>
          rw [hcount] at hdropped
          exact absurd hdropped (by decide)
      | succ e =>
          refine roundUnits_of_below_pow2 hpos h hbelow hcount ?_
          have hlog : units.log2 = 52 + (e + 1) := by
            unfold excess at hcount
            omega
          rw [← hlog]
          exact hpow
    · exact roundUnits_of_below hpos hunits hrep h hbelow (gapBelow_of_not_pow2 hhalved)

/-! ## Rounding on one side of a count -/

theorem excess_mono {m n : Nat} (h : m ≤ n) : excess m ≤ excess n := by
  cases hcount : excess m with
  | zero => exact Nat.zero_le _
  | succ e =>
      have hlarge := Nat.le_trans (pow2_le_of_excess hcount) h
      have hpos := pow2_pos (52 + (e + 1))
      have hlog : ¬ n.log2 < 52 + (e + 1) := fun hlt =>
        Nat.not_lt.2 hlarge ((log2_lt_iff_lt_pow2 (by omega)).1 hlt)
      unfold excess
      omega

theorem roundUnits_le (hpos : 0 < den) (hrep : pow2 (excess units) ∣ units)
    (h : num ≤ units * den) : roundUnits num den ≤ units := by
  have hfloor : num / den ≤ units := by
    have hdiv := Nat.div_le_div_right (c := den) h
    rwa [Nat.mul_div_cancel _ hpos] at hdiv
  have hwhole : num / den / pow2 (excess (num / den)) * pow2 (excess (num / den)) ≤ num / den :=
    Nat.div_mul_le_self _ _
  unfold roundUnits
  dsimp only
  split
  · rename_i hup
    -- Something remains, so the count lies above the whole steps, by at least one step.
    have hstep : 0 < den * pow2 (excess (num / den)) := Nat.mul_pos hpos (pow2_pos _)
    have hrest : num / den / pow2 (excess (num / den)) * pow2 (excess (num / den)) * den < num := by
      rw [Nat.mul_assoc, Nat.mul_comm (pow2 _) den]
      simp only [Bool.or_eq_true, Bool.and_eq_true, decide_eq_true_eq] at hup
      omega
    have habove : num / den / pow2 (excess (num / den)) * pow2 (excess (num / den)) < units :=
      Nat.lt_of_mul_lt_mul_right (Nat.lt_of_lt_of_le hrest h)
    obtain ⟨steps, hsteps⟩ := Nat.dvd_trans (pow2_dvd_pow2 (excess_mono hfloor)) hrep
    rw [hsteps, Nat.mul_comm] at habove
    rw [hsteps, Nat.mul_comm (pow2 _) steps]
    exact Nat.mul_le_mul_right _ (Nat.lt_of_mul_lt_mul_left habove)
  · exact Nat.le_trans hwhole hfloor

theorem le_roundUnits (hpos : 0 < den) (hrep : pow2 (excess units) ∣ units)
    (h : units * den ≤ num) : units ≤ roundUnits num den := by
  have hfloor : units ≤ num / den := (Nat.le_div_iff_mul_le hpos).2 h
  have hkept : units ≤ num / den / pow2 (excess (num / den)) * pow2 (excess (num / den)) := by
    rcases Nat.lt_or_ge (excess units) (excess (num / den)) with hless | hsame
    · -- The quotient has more bits than the count.
      cases hcount : excess (num / den) with
      | zero => omega
      | succ e =>
          have hfull := Nat.mul_le_mul_right (pow2 (e + 1)) (pow2_le_significand hcount)
          rw [← pow2_add] at hfull
          have hbits : pow2 (53 + excess units) ≤ pow2 (52 + (e + 1)) :=
            Nat.le_of_dvd (pow2_pos _) (pow2_dvd_pow2 (by omega))
          have hsmall := lt_pow2_of_excess units
          omega
    · have heq : excess (num / den) = excess units :=
        Nat.le_antisymm hsame (excess_mono hfloor)
      rw [heq]
      obtain ⟨hsplit, -⟩ := units_split hrep 1
      have hdiv := Nat.mul_le_mul_right (pow2 (excess units))
        (Nat.div_le_div_right (c := pow2 (excess units)) hfloor)
      omega
  unfold roundUnits
  dsimp only
  split
  · rw [Nat.add_mul]
    omega
  · exact hkept

theorem roundUnits_exact (hpos : 0 < den) (hrep : pow2 (excess units) ∣ units) :
    roundUnits (units * den) den = units :=
  Nat.le_antisymm (roundUnits_le hpos hrep (Nat.le_refl _))
    (le_roundUnits hpos hrep (Nat.le_refl _))

end Rulebound.Binary64
