import Mathlib
import Rulebound.Proofs.Number.Digits
import Rulebound.Proofs.Number.Rounding

/-!
# Decimals by their values

What a decimal is read as depends on its value alone, however many zeros stand before and after its
digits. A decimal whose value lies within half a gap of a number is read as that number.
-/

namespace Rulebound

/-! ## Values -/

def Decimal.value (d : Decimal) : ℚ :=
  ofDigits d.digits * (10 : ℚ) ^ (d.point - d.digits.length : ℤ)

theorem pow10_cast (e : ℕ) : ((pow10 e : ℕ) : ℚ) = (10 : ℚ) ^ e := by
  unfold pow10
  push_cast [Nat.pow_eq]
  rfl

/-- A power of ten with its exponent on the one or the other side of a fraction. -/
theorem pow10_div_pow10 (e : ℤ) :
    ((pow10 e.toNat : ℕ) : ℚ) / (pow10 (-e).toNat : ℕ) = (10 : ℚ) ^ e := by
  rw [pow10_cast, pow10_cast]
  rcases Int.le_total 0 e with hpos | hneg
  · have hzero : (-e).toNat = 0 := by omega
    have hcast : ((e.toNat : ℕ) : ℤ) = e := Int.toNat_of_nonneg hpos
    rw [hzero, pow_zero, div_one, ← zpow_natCast, hcast]
  · have hzero : e.toNat = 0 := by omega
    have hcast : (((-e).toNat : ℕ) : ℤ) = -e := Int.toNat_of_nonneg (by omega)
    rw [hzero, pow_zero, one_div, ← zpow_natCast, hcast, zpow_neg, inv_inv]

theorem Decimal.value_dropWhile (d : Decimal) :
    (⟨d.digits.dropWhile (· == 0),
      d.point - (d.digits.length - (d.digits.dropWhile (· == 0)).length : ℕ)⟩ : Decimal).value =
      d.value := by
  have hle : (d.digits.dropWhile (· == 0)).length ≤ d.digits.length :=
    (List.dropWhile_sublist _).length_le
  simp only [Decimal.value, ofDigits_dropWhile_zero]
  congr 2
  omega

theorem ofDigits_trim (digits : List ℕ) :
    ofDigits digits = ofDigits (digits.reverse.dropWhile (· == 0)).reverse *
      pow10 (digits.length - (digits.reverse.dropWhile (· == 0)).reverse.length) := by
  have hsplit : digits = (digits.reverse.dropWhile (· == 0)).reverse ++
      (digits.reverse.takeWhile (· == 0)).reverse := by
    rw [← List.reverse_append, List.takeWhile_append_dropWhile, List.reverse_reverse]
  have hzeros : (digits.reverse.takeWhile (· == 0)).reverse =
      List.replicate (digits.reverse.takeWhile (· == 0)).reverse.length 0 := by
    refine List.eq_replicate_iff.2 ⟨rfl, fun digit hmem => ?_⟩
    have hzero := List.mem_takeWhile_imp (List.mem_reverse.1 hmem)
    simpa using hzero
  have hlength : digits.length - (digits.reverse.dropWhile (· == 0)).reverse.length =
      (digits.reverse.takeWhile (· == 0)).reverse.length := by
    conv => lhs; rw [hsplit]
    simp
  rw [hlength]
  conv => lhs; rw [hsplit]
  rw [ofDigits_append]
  conv => lhs; rw [hzeros]
  simp

theorem Decimal.value_trim (d : Decimal) : d.trim.value = d.value := by
  have hle : (d.digits.reverse.dropWhile (· == 0)).reverse.length ≤ d.digits.length := by
    have hdrop := (List.dropWhile_sublist (· == 0) (l := d.digits.reverse)).length_le
    simpa using hdrop
  simp only [Decimal.value, Decimal.trim]
  rw [ofDigits_trim d.digits, Nat.cast_mul, pow10_cast, mul_assoc, ← zpow_natCast,
    ← zpow_add₀ (by norm_num : (10 : ℚ) ≠ 0)]
  congr 2
  omega

theorem Decimal.value_append_zeros (digits : List ℕ) (point : ℤ) (count : ℕ) :
    (⟨digits ++ List.replicate count 0, point⟩ : Decimal).value =
      (⟨digits, point⟩ : Decimal).value := by
  simp only [Decimal.value, ofDigits_append, ofDigits_replicate_zero, List.length_replicate,
    List.length_append, Nat.add_zero]
  rw [Nat.cast_mul, pow10_cast, mul_assoc, ← zpow_natCast,
    ← zpow_add₀ (by norm_num : (10 : ℚ) ≠ 0)]
  congr 2
  push_cast
  ring

theorem Decimal.value_zeros_append (count : ℕ) (digits : List ℕ) (point : ℤ) :
    (⟨List.replicate count 0 ++ digits, point + count⟩ : Decimal).value =
      (⟨digits, point⟩ : Decimal).value := by
  simp only [Decimal.value, ofDigits_append, ofDigits_replicate_zero, List.length_replicate,
    List.length_append, Nat.zero_mul, Nat.zero_add]
  congr 2
  push_cast
  ring

theorem Decimal.value_ofCount (count : ℕ) (exponent : ℤ) :
    (Decimal.ofCount count exponent).value = count * (10 : ℚ) ^ exponent := by
  simp [Decimal.value, Decimal.ofCount, ofDigits_digitsOf]

theorem zpow_ten_pos (e : ℤ) : (0 : ℚ) < (10 : ℚ) ^ e :=
  zpow_pos (by norm_num) e

/-- A decimal whose digits do not begin with a zero lies between two powers of ten. -/
theorem Decimal.value_bounds {digit : ℕ} {rest : List ℕ} {point : ℤ} (hne : digit ≠ 0)
    (hdigits : AreDigits (digit :: rest)) :
    (10 : ℚ) ^ (point - 1) ≤ (⟨digit :: rest, point⟩ : Decimal).value ∧
      (⟨digit :: rest, point⟩ : Decimal).value < (10 : ℚ) ^ point := by
  have hlow : ((pow10 rest.length : ℕ) : ℚ) ≤ ofDigits (digit :: rest) := by
    exact_mod_cast le_ofDigits hne rest
  have hhigh : (ofDigits (digit :: rest) : ℚ) < (pow10 (digit :: rest).length : ℕ) := by
    exact_mod_cast hdigits.ofDigits_lt
  have hscale := zpow_ten_pos (point - (digit :: rest).length)
  rw [pow10_cast, ← zpow_natCast] at hlow hhigh
  unfold Decimal.value
  constructor
  · calc (10 : ℚ) ^ (point - 1)
        = (10 : ℚ) ^ ((rest.length : ℕ) : ℤ) * (10 : ℚ) ^ (point - (digit :: rest).length) := by
          rw [← zpow_add₀ (by norm_num : (10 : ℚ) ≠ 0), List.length_cons]
          congr 1
          push_cast
          ring
      _ ≤ _ := mul_le_mul_of_nonneg_right hlow hscale.le
  · calc _ < (10 : ℚ) ^ (((digit :: rest).length : ℕ) : ℤ) *
          (10 : ℚ) ^ (point - (digit :: rest).length) := mul_lt_mul_of_pos_right hhigh hscale
      _ = (10 : ℚ) ^ point := by
          rw [← zpow_add₀ (by norm_num : (10 : ℚ) ≠ 0)]
          congr 1
          ring

namespace Binary64

variable {units : ℕ}

theorem stepsPerOne_pos : 0 < stepsPerOne :=
  pow2_pos 1074

/-! ## Values that are read as a count -/

/-- A value lies within half a gap of a count; at the very ends only if its significand is even. -/
structure Reads (units : ℕ) (v : ℚ) : Prop where
  low : ((4 * units - 2 * gapBelow units : ℕ) : ℚ) ≤ 4 * v * stepsPerOne
  high : 4 * v * stepsPerOne ≤ ((4 * units + 2 * pow2 (excess units) : ℕ) : ℚ)
  strict : units / pow2 (excess units) % 2 = 1 →
    ((4 * units - 2 * gapBelow units : ℕ) : ℚ) < 4 * v * stepsPerOne ∧
      4 * v * stepsPerOne < ((4 * units + 2 * pow2 (excess units) : ℕ) : ℚ)

theorem scaled_div (n den : ℕ) :
    4 * ((n : ℚ) / den) * stepsPerOne = ((4 * (n * stepsPerOne) : ℕ) : ℚ) / den := by
  push_cast
  ring

theorem reads_div_iff {n den : ℕ} (hden : 0 < den) :
    Reads units ((n : ℚ) / den) ↔ IsNear units (n * stepsPerOne) den := by
  have hpos : (0 : ℚ) < den := by exact_mod_cast hden
  have hle : ∀ bound : ℕ, (bound : ℚ) ≤ 4 * ((n : ℚ) / den) * stepsPerOne ↔
      bound * den ≤ 4 * (n * stepsPerOne) := fun bound => by
    rw [scaled_div, le_div_iff₀ hpos]
    exact_mod_cast Iff.rfl
  have hge : ∀ bound : ℕ, 4 * ((n : ℚ) / den) * stepsPerOne ≤ (bound : ℚ) ↔
      4 * (n * stepsPerOne) ≤ bound * den := fun bound => by
    rw [scaled_div, div_le_iff₀ hpos]
    exact_mod_cast Iff.rfl
  have hlt : ∀ bound : ℕ, (bound : ℚ) < 4 * ((n : ℚ) / den) * stepsPerOne ↔
      bound * den < 4 * (n * stepsPerOne) := fun bound => by
    rw [scaled_div, lt_div_iff₀ hpos]
    exact_mod_cast Iff.rfl
  have hgt : ∀ bound : ℕ, 4 * ((n : ℚ) / den) * stepsPerOne < (bound : ℚ) ↔
      4 * (n * stepsPerOne) < bound * den := fun bound => by
    rw [scaled_div, div_lt_iff₀ hpos]
    exact_mod_cast Iff.rfl
  constructor
  · rintro ⟨hlow, hhigh, hstrict⟩
    exact ⟨(hle _).1 hlow, (hge _).1 hhigh,
      fun hodd => ⟨(hlt _).1 (hstrict hodd).1, (hgt _).1 (hstrict hodd).2⟩⟩
  · rintro ⟨hlow, hhigh, hstrict⟩
    exact ⟨(hle _).2 hlow, (hge _).2 hhigh,
      fun hodd => ⟨(hlt _).2 (hstrict hodd).1, (hgt _).2 (hstrict hodd).2⟩⟩

/-- What is checked of a multiple of a power of ten is what its value is read as. -/
theorem readsAs_iff (units count : ℕ) (exponent : ℤ) :
    readsAs units count exponent = true ↔ Reads units (count * (10 : ℚ) ^ exponent) := by
  have hvalue : (count : ℚ) * (10 : ℚ) ^ exponent =
      ((count * pow10 exponent.toNat : ℕ) : ℚ) / (pow10 (-exponent).toNat : ℕ) := by
    rw [← pow10_div_pow10]
    push_cast
    ring
  have hnum : 4 * count * pow10 exponent.toNat * stepsPerOne =
      4 * (count * pow10 exponent.toNat * stepsPerOne) := by ring
  rw [hvalue, reads_div_iff (pow10_pos _)]
  simp only [readsAs, hnum]
  by_cases heven : units / pow2 (excess units) % 2 = 0
  · rw [if_pos heven, decide_eq_true_iff]
    exact ⟨fun h => ⟨h.1, h.2, fun hodd => by omega⟩, fun h => ⟨h.low, h.high⟩⟩
  · rw [if_neg heven, decide_eq_true_iff]
    exact ⟨fun h => ⟨h.1.le, h.2.le, fun _ => h⟩, fun h => h.strict (by omega)⟩

/-! ## Reading a decimal -/

theorem gapBelow_le (units : ℕ) : gapBelow units ≤ pow2 (excess units) := by
  unfold gapBelow
  dsimp only
  split <;> omega

/-- A number that is not too large has its point within the range that is looked at. -/
theorem point_le {v : ℚ} {point : ℤ} (hlow : (10 : ℚ) ^ (point - 1) ≤ v)
    (hsmall : v * stepsPerOne < 2 * overflow) : point ≤ 400 := by
  by_contra hlarge
  have hpow : ((pow10 400 : ℕ) : ℚ) ≤ v := by
    rw [pow10_cast, ← zpow_natCast]
    exact le_trans (zpow_le_zpow_right₀ (by norm_num) (by omega)) hlow
  have hsteps : (0 : ℚ) < stepsPerOne := by exact_mod_cast stepsPerOne_pos
  have hbound : 2 * overflow ≤ pow10 400 * stepsPerOne := by
    have hpowers : 2 * overflow = pow2 1025 * stepsPerOne := by
      rw [overflow, stepsPerOne, two_mul_pow2, ← pow2_add]
    rw [hpowers]
    exact Nat.mul_le_mul_right _ (pow2_le_pow10 (by omega))
  have hcast : (2 : ℚ) * overflow ≤ (pow10 400 : ℕ) * stepsPerOne := by exact_mod_cast hbound
  exact absurd hsmall (not_lt.2 (hcast.trans (mul_le_mul_of_nonneg_right hpow hsteps.le)))

theorem le_point {v : ℚ} {point : ℤ} (hhigh : v < (10 : ℚ) ^ point)
    (hlarge : (1 : ℚ) ≤ 2 * v * stepsPerOne) : -400 ≤ point := by
  by_contra hsmall
  have hten : (0 : ℚ) < (pow10 400 : ℕ) := by exact_mod_cast pow10_pos 400
  have hpow : v * (pow10 400 : ℕ) < 1 := by
    rw [pow10_cast, ← zpow_natCast]
    calc v * (10 : ℚ) ^ ((400 : ℕ) : ℤ)
        < (10 : ℚ) ^ point * (10 : ℚ) ^ ((400 : ℕ) : ℤ) :=
          mul_lt_mul_of_pos_right hhigh (zpow_ten_pos _)
      _ = (10 : ℚ) ^ (point + ((400 : ℕ) : ℤ)) := (zpow_add₀ (by norm_num) _ _).symm
      _ ≤ (10 : ℚ) ^ (0 : ℤ) := zpow_le_zpow_right₀ (by norm_num) (by omega)
      _ = 1 := zpow_zero _
  have hbound : 2 * stepsPerOne ≤ pow10 400 := by
    rw [stepsPerOne, two_mul_pow2]
    exact pow2_le_pow10 (by omega)
  have hcast : (2 : ℚ) * stepsPerOne ≤ (pow10 400 : ℕ) := by exact_mod_cast hbound
  have hpositive : 0 < v := by
    have hsteps : (0 : ℚ) < stepsPerOne := by exact_mod_cast stepsPerOne_pos
    by_contra hnegative
    have hproduct := mul_nonpos_of_nonpos_of_nonneg (not_lt.1 hnegative) hsteps.le
    linarith
  have hscaled := mul_le_mul_of_nonneg_left hcast hpositive.le
  linarith

theorem ofUnits_of_roundUnits {num den : ℕ} (hrep : Representable units)
    (h : roundUnits num den = units) (negative : Bool) :
    ofUnits negative num den = .finite negative units hrep := by
  unfold ofUnits
  rw [dif_pos (by rw [h]; exact hrep.1)]
  have hsame : ∀ (m : ℕ) (fits : Representable m), m = units →
      Binary64.finite negative m fits = .finite negative units hrep := by
    rintro m fits rfl
    rfl
  exact hsame _ _ h

/-- A decimal of zeros is read as a zero of its sign. -/
theorem toBinary64_of_zeros (hrep : Representable 0) (count : ℕ) (point : ℤ) (negative : Bool) :
    Decimal.toBinary64 negative ⟨List.replicate count 0, point⟩ = .finite negative 0 hrep := by
  have hdrop : (List.replicate count 0).dropWhile (· == 0) = ([] : List ℕ) := by
    rw [List.dropWhile_replicate, if_pos (beq_self_eq_true 0)]
  unfold Decimal.toBinary64
  dsimp only
  rw [hdrop, if_pos List.isEmpty_nil]
  exact ofUnits_of_roundUnits hrep rfl negative

variable (hunits : 0 < units) (hrep : Representable units)

include hunits hrep

/-- A value that is read as a count is about as large as the count. -/
theorem Reads.bounds {v : ℚ} (h : Reads units v) :
    (1 : ℚ) ≤ 2 * v * stepsPerOne ∧ v * stepsPerOne < 2 * overflow := by
  have hulp : pow2 (excess units) ≤ units := Nat.le_of_dvd hunits hrep.2
  have hgap := gapBelow_le units
  have hlow : ((2 : ℕ) : ℚ) ≤ 4 * v * stepsPerOne :=
    le_trans (by exact_mod_cast (by omega : 2 ≤ 4 * units - 2 * gapBelow units)) h.low
  have hhigh : 4 * v * stepsPerOne < ((8 * overflow : ℕ) : ℚ) := by
    refine lt_of_le_of_lt h.high ?_
    have hsmall := hrep.1
    exact_mod_cast (by omega : 4 * units + 2 * pow2 (excess units) < 8 * overflow)
  push_cast at hlow hhigh
  constructor
  · linarith
  · linarith

theorem ofUnits_of_isNear {num den : ℕ} (hden : 0 < den) (h : IsNear units num den)
    (negative : Bool) : ofUnits negative num den = .finite negative units hrep :=
  ofUnits_of_roundUnits hrep (roundUnits_of_isNear hden hunits hrep.2 h) negative

/-- A decimal is read as the number that its value is read as. -/
theorem toBinary64_of_reads {d : Decimal} (hdigits : AreDigits d.digits)
    (h : Reads units d.value) (negative : Bool) :
    d.toBinary64 negative = .finite negative units hrep := by
  obtain ⟨hlarge, hsmall⟩ := h.bounds hunits hrep
  have hvalue := d.value_dropWhile
  unfold Decimal.toBinary64
  cases hdrop : d.digits.dropWhile (· == 0) with
  | nil =>
      rw [hdrop] at hvalue
      have hzero : d.value = 0 := by
        rw [← hvalue]
        simp [Decimal.value]
      rw [hzero, mul_zero, zero_mul] at hlarge
      exact absurd hlarge (not_le.2 one_pos)
  | cons digit rest =>
      rw [hdrop] at hvalue
      have hmem : ∀ other ∈ digit :: rest, other ∈ d.digits := fun other hother =>
        (List.dropWhile_sublist (· == 0)).mem (hdrop ▸ hother)
      have hne : digit ≠ 0 := by
        have hhead := List.head_dropWhile_not (· == 0) (l := d.digits) (by simp [hdrop])
        simpa [hdrop] using hhead
      obtain ⟨hlow, hhigh⟩ := Decimal.value_bounds hne fun other hother =>
        hdigits other (hmem other hother)
      rw [hvalue] at hlow hhigh
      dsimp only
      rw [if_neg (by simp), if_neg (not_lt.2 (point_le hlow hsmall)),
        if_neg (not_lt.2 (le_point hhigh hlarge))]
      refine ofUnits_of_isNear hunits hrep (pow10_pos _) ?_ negative
      rw [← reads_div_iff (pow10_pos _)]
      refine (congrArg (Reads units) ?_).mpr h
      rw [← hvalue, Decimal.value, ← pow10_div_pow10]
      push_cast
      ring

end Binary64

end Rulebound
