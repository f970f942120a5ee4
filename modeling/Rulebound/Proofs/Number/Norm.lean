import Rulebound.Proofs.Number.Exact

/-!
# Lengths

The length of a vector of numbers is a number. Where all components are very small it is the root of
a sum to which everything is added that its roundings have cut off. That is far less than the sum
itself, so the root exists.
-/

namespace Rulebound.Binary64

variable {a b : Binary64} {p q : ℚ}

/-! ## What a rounding cuts off -/

theorem roundUnits_near {count e : ℕ} (h : count < pow2 (53 + e)) :
    count ≤ roundUnits count 1 + pow2 e ∧ roundUnits count 1 ≤ count + pow2 e := by
  have hexcess : excess count ≤ e := by
    by_cases hzero : count = 0
    · simp [excess, hzero]
    · have hlog := (log2_lt_iff_lt_pow2 hzero).2 h
      unfold excess
      omega
  have hulp : pow2 (excess count) ≤ pow2 e :=
    Nat.le_of_dvd (pow2_pos e) (pow2_dvd_pow2 hexcess)
  have hfloor : count / pow2 (excess count) * pow2 (excess count) ≤ count := Nat.div_mul_le_self ..
  have hceil : count < (count / pow2 (excess count) + 1) * pow2 (excess count) :=
    Nat.lt_mul_of_div_lt (Nat.lt_succ_self _) (pow2_pos _)
  unfold roundUnits
  rw [Nat.div_one]
  rw [Nat.add_mul, Nat.one_mul] at hceil
  dsimp only
  split
  · rw [Nat.add_mul, Nat.one_mul]
    omega
  · omega

/-- A value that is not large is less than a thousandth from the exact one. -/
theorem ofSteps_near {steps : ℤ} (h : |(steps : ℚ) / stepsPerOne| < pow2 43) :
    ∃ r, (ofSteps steps).value? = some r ∧ |r - steps / stepsPerOne| ≤ 1 / 1024 := by
  have hone : (stepsPerOne : ℚ) = (pow2 1074 : ℕ) := rfl
  have hsize : steps.natAbs < pow2 43 * pow2 1074 := by
    rw [abs_div, abs_of_pos stepsPerOne_cast_pos, div_lt_iff₀ stepsPerOne_cast_pos, hone,
      ← Nat.cast_mul] at h
    have hnat : ((steps.natAbs : ℕ) : ℚ) < (pow2 43 * pow2 1074 : ℕ) := by
      rwa [Nat.cast_natAbs, Int.cast_abs]
    exact_mod_cast hnat
  have hrep := representable_of_le (by decide : pow2 43 ≤ pow2 53) (le_refl 1074)
  have hround := roundUnits_le Nat.one_pos hrep.2 (Nat.le_trans hsize.le (Nat.mul_one _).ge)
  have hfits := Nat.lt_of_le_of_lt hround hrep.1
  rw [← pow2_add] at hsize
  obtain ⟨hlow, hhigh⟩ := roundUnits_near (e := 1064) hsize
  have hdistance : |signed (decide (steps < 0)) (roundUnits steps.natAbs 1) - steps| ≤
      (pow2 1064 : ℕ) := by
    rw [abs_le]
    by_cases hneg : steps < 0
    · rw [decide_eq_true hneg]
      simp only [signed, if_true]
      omega
    · rw [decide_eq_false hneg]
      simp only [signed, Bool.false_eq_true, if_false]
      omega
  refine ⟨_, value?_ofUnits hfits, ?_⟩
  have hunit : stepsPerOne = pow2 10 * pow2 1064 := pow2_add 10 1064
  have hscaled : |(signed (decide (steps < 0)) (roundUnits steps.natAbs 1) : ℚ) - steps| ≤
      pow2 1064 := by exact_mod_cast hdistance
  rw [← sub_div, abs_div, abs_of_pos stepsPerOne_cast_pos, div_le_div_iff₀ stepsPerOne_cast_pos
    (by norm_num), one_mul, hunit, Nat.cast_mul, pow2_cast 10]
  linarith

theorem add_near (ha : a.value? = some p) (hb : b.value? = some q) (h : |p + q| < pow2 43) :
    ∃ r, (a + b).value? = some r ∧ |r - (p + q)| ≤ 1 / 1024 := by
  obtain ⟨steps, hsteps, hsum⟩ := value?_add ha hb
  rw [hsteps] at h ⊢
  rw [hsum]
  exact ofSteps_near h

theorem sub_near (ha : a.value? = some p) (hb : b.value? = some q) (h : |p - q| < pow2 43) :
    ∃ r, (a - b).value? = some r ∧ |r - (p - q)| ≤ 1 / 1024 := by
  rw [sub_eq_add_neg] at h ⊢
  exact add_near ha (value?_neg hb) h

/-! ## Parts of the largest component -/

theorem representable_stepsPerOne : Representable stepsPerOne := by
  have hrep := representable_of_le (by decide : 1 ≤ pow2 53) (le_refl 1074)
  rwa [Nat.one_mul] at hrep

theorem value?_ofUnits_of_le {num den : ℕ} (hden : 0 < den) (h : num ≤ stepsPerOne * den) :
    ∃ t, (ofUnits false num den).value? = some t ∧ 0 ≤ t ∧ t ≤ 1 ∧
      (num = stepsPerOne * den → t = 1) := by
  have hround := roundUnits_le hden representable_stepsPerOne.2 h
  have hfits := Nat.lt_of_le_of_lt hround representable_stepsPerOne.1
  refine ⟨_, value?_ofUnits hfits, ?_, ?_, ?_⟩
  · exact div_nonneg (by simp [signed]) stepsPerOne_cast_pos.le
  · rw [div_le_one stepsPerOne_cast_pos]
    exact Nat.cast_le.2 hround
  · intro hwhole
    rw [hwhole, roundUnits_exact hden representable_stepsPerOne.2]
    exact div_self stepsPerOne_cast_pos.ne'

/-- The square of a part of one is such a part, and that of one is one. -/
theorem value?_mul_self (ha : a.value? = some p) (hlow : 0 ≤ p) (hhigh : p ≤ 1) :
    ∃ t, (a * a).value? = some t ∧ 0 ≤ t ∧ t ≤ 1 ∧ (p = 1 → t = 1) := by
  obtain ⟨s, m, hm, rfl, rfl⟩ := value?_eq_some ha
  have hsquare : finite s m hm * finite s m hm = ofUnits (s != s) (m * m) stepsPerOne := by
    change mul _ _ = _
    rw [mul]
  have hsize : m ≤ stepsPerOne := by
    have habs : |(signed s m : ℚ) / stepsPerOne| ≤ 1 := abs_le.2 ⟨by linarith, hhigh⟩
    rw [abs_div, abs_of_pos stepsPerOne_cast_pos, div_le_one stepsPerOne_cast_pos,
      signed_abs] at habs
    exact_mod_cast habs
  obtain ⟨t, ht, htlow, hthigh, htone⟩ :=
    value?_ofUnits_of_le stepsPerOne_pos (Nat.mul_le_mul hsize hsize)
  rw [hsquare, bne_self_eq_false]
  refine ⟨t, ht, htlow, hthigh, fun hone => htone ?_⟩
  have hwhole : (m : ℚ) = stepsPerOne := by
    rw [div_eq_one_iff_eq stepsPerOne_cast_pos.ne'] at hone
    rw [← signed_abs s m, hone, Nat.abs_cast]
  rw [Nat.cast_inj.1 hwhole]

/-- The square of a component as a part of the largest one. -/
theorem value?_square {count largest : ℕ} (hpos : 0 < largest) (h : count ≤ largest) :
    ∃ t, (ofUnits false (count * stepsPerOne) largest *
        ofUnits false (count * stepsPerOne) largest).value? = some t ∧
      0 ≤ t ∧ t ≤ 1 ∧ (count = largest → t = 1) := by
  have hpart : count * stepsPerOne ≤ stepsPerOne * largest := by
    rw [Nat.mul_comm]
    exact Nat.mul_le_mul_left _ h
  obtain ⟨p, hp, hlow, hhigh, hone⟩ := value?_ofUnits_of_le hpos hpart
  obtain ⟨t, ht, htlow, hthigh, htone⟩ := value?_mul_self hp hlow hhigh
  refine ⟨t, ht, htlow, hthigh, fun hcount => htone (hone ?_)⟩
  rw [hcount, Nat.mul_comm]

/-! ## The sum of the squares -/

theorem eight_lt_pow2 : (8 : ℚ) < (pow2 43 : ℕ) := by
  rw [pow2_cast]
  norm_num

/-- A sum with what was cut off of it, and how far both can be from the exact sum and from nothing
after some terms. -/
structure Keeps (state : Binary64 × Binary64) (exact : ℚ) (terms : ℕ) : Prop where
  sum : ∃ s, state.1.value? = some s ∧ |s - exact| ≤ terms / 1024
  rest : ∃ r, state.2.value? = some r ∧ |r| ≤ 4 * terms / 1024

/-- One more term takes the sum by one rounding farther from the exact one. -/
theorem Keeps.add {state : Binary64 × Binary64} {exact : ℚ} {terms : ℕ}
    (h : Keeps state exact terms) {term : Binary64} {t : ℚ} (ht : term.value? = some t)
    (hlow : 0 ≤ t) (hhigh : t ≤ 1) (hexact : |exact| ≤ 4) (hterms : terms ≤ 4) :
    Keeps (addKeeping state term) (exact + t) (terms + 1) := by
  obtain ⟨⟨s, hs, hsnear⟩, ⟨r, hr, hrsmall⟩⟩ := h
  have hfew : (terms : ℚ) ≤ 4 := by exact_mod_cast hterms
  have hlarge := eight_lt_pow2
  rw [abs_le] at hsnear hrsmall hexact
  have hst : |s + t| < (pow2 43 : ℕ) := abs_lt.2 ⟨by linarith, by linarith⟩
  obtain ⟨s', hs', hs'near⟩ := add_near hs ht hst
  rw [abs_le] at hs'near
  have hss : |s - s'| < (pow2 43 : ℕ) := abs_lt.2 ⟨by linarith, by linarith⟩
  obtain ⟨d, hd, hdnear⟩ := sub_near hs hs' hss
  rw [abs_le] at hdnear
  have hdt : |d + t| < (pow2 43 : ℕ) := abs_lt.2 ⟨by linarith, by linarith⟩
  obtain ⟨l, hl, hlnear⟩ := add_near hd ht hdt
  rw [abs_le] at hlnear
  have hrl : |r + l| < (pow2 43 : ℕ) := abs_lt.2 ⟨by linarith, by linarith⟩
  obtain ⟨r', hr', hr'near⟩ := add_near hr hl hrl
  rw [abs_le] at hr'near
  refine ⟨⟨s', hs', ?_⟩, ⟨r', hr', ?_⟩⟩ <;> rw [abs_le] <;> push_cast <;>
    constructor <;> linarith

/-! ## What is a number -/

theorem isNan_ofUnits (negative : Bool) (num den : ℕ) :
    (ofUnits negative num den).isNan = false := by
  unfold ofUnits
  split <;> rfl

theorem isNan_of_value? (ha : a.value? = some p) : a.isNan = false := by
  cases a with
  | nan => exact nomatch ha
  | _ => rfl

theorem isNan_mul (ha : a.value? = some p) (hp : p ≠ 0) (hb : b.isNan = false) :
    (a * b).isNan = false := by
  obtain ⟨s, m, hm, rfl, rfl⟩ := value?_eq_some ha
  have hcount : m ≠ 0 := by
    rintro rfl
    have hzero : signed s 0 = 0 := by cases s <;> rfl
    exact hp (by rw [hzero, Int.cast_zero, zero_div])
  change (mul _ _).isNan = false
  cases b with
  | nan => exact nomatch hb
  | infinite t =>
      rw [mul, if_neg hcount]
      rfl
  | finite t n hn =>
      rw [mul]
      exact isNan_ofUnits ..

theorem isNan_sqrt (ha : a.value? = some p) (hp : 0 < p) : a.sqrt.isNan = false := by
  obtain ⟨s, m, hm, rfl, rfl⟩ := value?_eq_some ha
  cases s with
  | true =>
      have hneg : (signed true m : ℚ) ≤ 0 := by simp [signed]
      exact absurd (div_pos_iff_of_pos_right stepsPerOne_cast_pos |>.1 hp) (not_lt.2 hneg)
  | false =>
      rw [sqrt]
      split
      · rfl
      · rw [if_neg Bool.false_ne_true, rootOfSquares]
        exact isNan_ofUnits ..

theorem isNan_sub (ha : a.isNan = false) (hb : b.isFinite = true) : (a - b).isNan = false := by
  cases b with
  | nan => exact nomatch hb
  | infinite t => exact nomatch hb
  | finite t n hn =>
      change (add _ _).isNan = false
      cases a with
      | nan => exact nomatch ha
      | infinite s => rfl
      | finite s m hm =>
          simp only [neg, add]
          split
          · exact isNan_ofUnits ..
          · exact isNan_ofUnits ..

theorem value?_ofUnits_count {count : ℕ} (hpos : 0 < count) (h : count < tinyCount) :
    ∃ t, (ofUnits false count 1).value? = some t ∧ t ≠ 0 := by
  have hbits : count ≤ pow2 53 := Nat.le_trans h.le (by decide)
  have hrep : Representable count := by
    have hscaled := representable_of_le hbits (Nat.zero_le 1074)
    rwa [show pow2 0 = 1 by rfl, Nat.mul_one] at hscaled
  have hround := roundUnits_exact Nat.one_pos hrep.2
  rw [Nat.mul_one] at hround
  have hfits : roundUnits count 1 < overflow := by
    rw [hround]
    exact hrep.1
  have hvalue : (ofUnits false count 1).value? = _ := value?_ofUnits hfits
  rw [hround] at hvalue
  refine ⟨_, hvalue, (div_pos ?_ stepsPerOne_cast_pos).ne'⟩
  simpa [signed] using hpos

/-- One of the squares is one, which is far more than all roundings cut off. -/
theorem isNan_tinyNorm {x y z largest : ℕ} (hpos : 0 < largest) (hsmall : largest < tinyCount)
    (hx : x ≤ largest) (hy : y ≤ largest) (hz : z ≤ largest)
    (hsome : x = largest ∨ y = largest ∨ z = largest) :
    (tinyNorm [x, y, z] largest).isNan = false := by
  obtain ⟨p, hp, hplow, hphigh, hpone⟩ := value?_square hpos hx
  obtain ⟨q, hq, hqlow, hqhigh, hqone⟩ := value?_square hpos hy
  obtain ⟨r, hr, hrlow, hrhigh, hrone⟩ := value?_square hpos hz
  have hone : (1 : Binary64).value? = some 1 := value?_ofInt (by decide)
  have hzero : (0 : Binary64).value? = some 0 := value?_ofInt (by decide)
  have hstart : Keeps (1, 0) 1 0 := ⟨⟨1, hone, by simp⟩, ⟨0, hzero, by simp⟩⟩
  have hfirst := hstart.add hp hplow hphigh (abs_le.2 ⟨by linarith, by linarith⟩) (by decide)
  have hsecond := hfirst.add hq hqlow hqhigh (abs_le.2 ⟨by linarith, by linarith⟩) (by decide)
  have hthird := hsecond.add hr hrlow hrhigh (abs_le.2 ⟨by linarith, by linarith⟩) (by decide)
  have hlarge := eight_lt_pow2
  have htotal : 1 ≤ p + q + r := by
    rcases hsome with hwhole | hwhole | hwhole
    · rw [hpone hwhole]
      linarith
    · rw [hqone hwhole]
      linarith
    · rw [hrone hwhole]
      linarith
  obtain ⟨⟨s, hs, hsnear⟩, ⟨e, he, hesmall⟩⟩ := hthird
  rw [abs_le] at hsnear hesmall
  push_cast at hsnear hesmall
  obtain ⟨d, hd, hdnear⟩ := sub_near hs hone (abs_lt.2 ⟨by linarith, by linarith⟩)
  rw [abs_le] at hdnear
  obtain ⟨t, ht, htnear⟩ := add_near hd he (abs_lt.2 ⟨by linarith, by linarith⟩)
  rw [abs_le] at htnear
  obtain ⟨count, hcount, hnonzero⟩ := value?_ofUnits_count hpos hsmall
  exact isNan_mul hcount hnonzero (isNan_sqrt ht (by linarith))

theorem isNan_normOfCounts (x y z : ℕ) : (normOfCounts [x, y, z]).isNan = false := by
  have hlargest : [x, y, z].foldl max 0 = max (max x y) z := by simp
  unfold normOfCounts
  dsimp only
  rw [hlargest]
  split
  · have hzero : (0 : Binary64).value? = some ((0 : ℤ) : ℚ) := value?_ofInt (by decide)
    exact isNan_of_value? hzero
  · split
    · rename_i hpos hsmall
      exact isNan_tinyNorm (by omega) hsmall (by omega) (by omega) (by omega) (by omega)
    · exact isNan_ofUnits ..

theorem isNan_norm {x y z : Binary64} (hx : x.isNan = false) (hy : y.isNan = false)
    (hz : z.isNan = false) : (norm x y z).isNan = false := by
  cases x with
  | nan => exact nomatch hx
  | infinite s => rfl
  | finite s m hm =>
      cases y with
      | nan => exact nomatch hy
      | infinite t => rfl
      | finite t n hn =>
          cases z with
          | nan => exact nomatch hz
          | infinite u => rfl
          | finite u k hk => exact isNan_normOfCounts m n k

end Rulebound.Binary64
