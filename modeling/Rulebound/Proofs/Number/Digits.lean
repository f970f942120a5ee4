import Rulebound.Number.Digits

/-!
# Digits and numbers

The digits of a number stand for that number, and how many there are says how large it is. A row of
digits that is followed by something else is read to its end.
-/

namespace Rulebound

theorem pow10_pos (e : Nat) : 0 < pow10 e :=
  Nat.pow_pos (by omega)

theorem pow10_succ (e : Nat) : pow10 (e + 1) = 10 * pow10 e := by
  unfold pow10
  exact (Nat.pow_succ ..).trans (Nat.mul_comm ..)

theorem pow10_le_pow10 {a b : Nat} (h : a ≤ b) : pow10 a ≤ pow10 b :=
  Nat.pow_le_pow_right (by omega) h

theorem two_mul_pow2 (e : Nat) : 2 * pow2 e = pow2 (e + 1) := by
  rw [Nat.add_comm, pow2_add]
  rfl

theorem pow2_lt_pow2 {a b : Nat} (h : a < b) : pow2 a < pow2 b :=
  Nat.pow_lt_pow_right (by omega) h

/-- Ten is more than three doublings. -/
theorem pow2_le_pow10 {a b : Nat} (h : a ≤ 3 * b) : pow2 a ≤ pow10 b :=
  calc pow2 a ≤ 2 ^ (3 * b) := Nat.pow_le_pow_right (by omega) h
    _ = (2 ^ 3) ^ b := Nat.pow_mul ..
    _ ≤ pow10 b := Nat.pow_le_pow_left (by omega) b

/-! ## The number of a row of digits -/

theorem foldl_digits (digits : List Nat) (start : Nat) :
    digits.foldl (fun n d => 10 * n + d) start =
      start * pow10 digits.length + ofDigits digits := by
  unfold ofDigits
  induction digits generalizing start with
  | nil => simp [pow10]
  | cons digit rest ih =>
      rw [List.foldl_cons, List.foldl_cons, ih, ih (10 * 0 + digit), List.length_cons, pow10_succ]
      have hsplit : (10 * start + digit) * pow10 rest.length =
          start * (10 * pow10 rest.length) + digit * pow10 rest.length := by
        rw [Nat.add_mul, ← Nat.mul_assoc start 10, Nat.mul_comm 10 start]
      simp only [Nat.mul_zero, Nat.zero_add]
      omega

@[simp] theorem ofDigits_nil : ofDigits [] = 0 := rfl

theorem ofDigits_cons (digit : Nat) (rest : List Nat) :
    ofDigits (digit :: rest) = digit * pow10 rest.length + ofDigits rest := by
  have hfold := foldl_digits rest (10 * 0 + digit)
  simpa [ofDigits] using hfold

theorem ofDigits_append (first last : List Nat) :
    ofDigits (first ++ last) = ofDigits first * pow10 last.length + ofDigits last := by
  have hfold := foldl_digits last (ofDigits first)
  rw [← hfold]
  simp [ofDigits, List.foldl_append]

@[simp] theorem ofDigits_replicate_zero (count : Nat) : ofDigits (List.replicate count 0) = 0 := by
  induction count with
  | zero => rfl
  | succ count ih => rw [List.replicate_succ, ofDigits_cons, ih, Nat.zero_mul]

theorem ofDigits_dropWhile_zero (digits : List Nat) :
    ofDigits (digits.dropWhile (· == 0)) = ofDigits digits := by
  induction digits with
  | nil => rfl
  | cons digit rest ih =>
      by_cases hzero : digit = 0
      · subst hzero
        rw [List.dropWhile_cons_of_pos (by simp), ih, ofDigits_cons, Nat.zero_mul, Nat.zero_add]
      · rw [List.dropWhile_cons_of_neg (by simpa using hzero)]

def AreDigits (digits : List Nat) : Prop :=
  ∀ digit ∈ digits, digit < 10

theorem areDigits_append {first last : List Nat} :
    AreDigits (first ++ last) ↔ AreDigits first ∧ AreDigits last := by
  simp [AreDigits, or_imp, forall_and]

theorem areDigits_replicate_zero (count : Nat) : AreDigits (List.replicate count 0) := by
  intro digit hmem
  rw [List.eq_of_mem_replicate hmem]
  omega

theorem AreDigits.ofDigits_lt {digits : List Nat} (h : AreDigits digits) :
    ofDigits digits < pow10 digits.length := by
  induction digits with
  | nil => exact pow10_pos 0
  | cons digit rest ih =>
      have hrest := ih fun other hmem => h other (List.mem_cons_of_mem _ hmem)
      have hdigit : digit ≤ 9 := Nat.le_of_lt_succ (h digit List.mem_cons_self)
      have hmul := Nat.mul_le_mul_right (pow10 rest.length) hdigit
      rw [ofDigits_cons, List.length_cons, pow10_succ]
      omega

theorem le_ofDigits {digit : Nat} (h : digit ≠ 0) (rest : List Nat) :
    pow10 rest.length ≤ ofDigits (digit :: rest) := by
  have hmul := Nat.mul_le_mul_right (pow10 rest.length) (Nat.one_le_iff_ne_zero.2 h)
  rw [ofDigits_cons]
  omega

/-! ## The digits of a number -/

theorem digitsAux_append (fuel n : Nat) (rest : List Nat) :
    digitsAux fuel n rest = digitsAux fuel n [] ++ rest := by
  induction fuel generalizing n rest with
  | zero => rfl
  | succ fuel ih =>
      unfold digitsAux
      by_cases hsmall : n < 10
      · simp [hsmall]
      · rw [if_neg hsmall, if_neg hsmall, ih, ih (n / 10) [n % 10]]
        simp

theorem digitsAux_fuel {fuel more n : Nat} (hfuel : n < pow2 fuel) (hmore : fuel ≤ more)
    (hpos : 0 < fuel) : digitsAux more n [] = digitsAux fuel n [] := by
  induction fuel generalizing more n with
  | zero => omega
  | succ fuel ih =>
      obtain ⟨extra, rfl⟩ : ∃ extra, more = extra + 1 := ⟨more - 1, by omega⟩
      unfold digitsAux
      by_cases hsmall : n < 10
      · simp [hsmall]
      · rw [if_neg hsmall, if_neg hsmall, digitsAux_append, digitsAux_append fuel]
        have hnext : n / 10 < pow2 fuel := by
          have hdouble : pow2 (fuel + 1) = pow2 fuel * 2 := Nat.pow_succ ..
          omega
        have hleft : 0 < fuel := by
          rcases Nat.eq_zero_or_pos fuel with rfl | hleft
          · simp [pow2] at hfuel
            omega
          · exact hleft
        rw [ih hnext (by omega) hleft]

theorem lt_pow2_log2_succ (n : Nat) : n < pow2 (n.log2 + 1) :=
  Nat.lt_log2_self

theorem digitsOf_of_lt {n : Nat} (h : n < 10) : digitsOf n = [n] := by
  unfold digitsOf digitsAux
  rw [if_pos h]

theorem digitsOf_of_le {n : Nat} (h : 10 ≤ n) :
    digitsOf n = digitsOf (n / 10) ++ [n % 10] := by
  have hfuel : n.log2 ≠ 0 := by
    intro hzero
    have hlt := lt_pow2_log2_succ n
    rw [hzero] at hlt
    simp [pow2] at hlt
    omega
  have hlog : (n / 10).log2 + 1 ≤ n.log2 := by
    have hdiv : n / 10 < pow2 n.log2 := by
      have hlt := lt_pow2_log2_succ n
      have hdouble : pow2 (n.log2 + 1) = pow2 n.log2 * 2 := Nat.pow_succ ..
      omega
    exact Nat.succ_le_of_lt ((log2_lt_iff_lt_pow2 (by omega)).2 hdiv)
  unfold digitsOf
  conv => lhs; unfold digitsAux
  rw [if_neg (by omega), digitsAux_append,
    digitsAux_fuel (lt_pow2_log2_succ (n / 10)) hlog (Nat.succ_pos _)]

theorem ofDigits_digitsOf (n : Nat) : ofDigits (digitsOf n) = n := by
  induction n using Nat.strongRecOn with
  | ind n ih =>
      by_cases hsmall : n < 10
      · rw [digitsOf_of_lt hsmall, ofDigits_cons]
        simp [pow10]
      · rw [digitsOf_of_le (by omega), ofDigits_append, ih (n / 10) (by omega), ofDigits_cons]
        simp only [List.length_cons, List.length_nil, ofDigits_nil, pow10_succ]
        simp only [pow10, Nat.pow_eq, Nat.pow_zero]
        omega

theorem areDigits_digitsOf (n : Nat) : AreDigits (digitsOf n) := by
  induction n using Nat.strongRecOn with
  | ind n ih =>
      by_cases hsmall : n < 10
      · rw [digitsOf_of_lt hsmall]
        simpa [AreDigits] using hsmall
      · rw [digitsOf_of_le (by omega), areDigits_append]
        refine ⟨ih (n / 10) (by omega), ?_⟩
        have hmod : n % 10 < 10 := Nat.mod_lt _ (by omega)
        simpa [AreDigits] using hmod

theorem digitsOf_eq_cons {n : Nat} (h : 0 < n) :
    ∃ digit rest, digitsOf n = digit :: rest ∧ digit ≠ 0 := by
  induction n using Nat.strongRecOn with
  | ind n ih =>
      by_cases hsmall : n < 10
      · exact ⟨n, [], digitsOf_of_lt hsmall, by omega⟩
      · obtain ⟨digit, rest, hdigits, hne⟩ := ih (n / 10) (by omega) (by omega)
        refine ⟨digit, rest ++ [n % 10], ?_, hne⟩
        rw [digitsOf_of_le (by omega), hdigits]
        rfl

theorem digitsOf_ne_nil (n : Nat) : digitsOf n ≠ [] := by
  rcases Nat.eq_zero_or_pos n with rfl | hpos
  · exact List.cons_ne_nil 0 []
  · obtain ⟨digit, rest, hdigits, -⟩ := digitsOf_eq_cons hpos
    rw [hdigits]
    exact List.cons_ne_nil digit rest

theorem lt_pow10_length (n : Nat) : n < pow10 (digitsOf n).length := by
  have hlt := (areDigits_digitsOf n).ofDigits_lt
  rwa [ofDigits_digitsOf] at hlt

theorem pow10_length_le {n : Nat} (h : 0 < n) : pow10 ((digitsOf n).length - 1) ≤ n := by
  obtain ⟨digit, rest, hdigits, hne⟩ := digitsOf_eq_cons h
  have hle := le_ofDigits hne rest
  rw [← hdigits, ofDigits_digitsOf] at hle
  rw [hdigits]
  exact hle

theorem lt_length_digitsOf {n e : Nat} (h : pow10 e ≤ n) : e < (digitsOf n).length := by
  have hlt := lt_pow10_length n
  apply Classical.byContradiction
  intro hshort
  have hmono : pow10 (digitsOf n).length ≤ pow10 e := pow10_le_pow10 (by omega)
  omega

/-! ## Characters of digits -/

theorem asciiDigit?_digitChar {d : Nat} (h : d < 10) : asciiDigit? (digitChar d) = some d := by
  have hall : ∀ d, d < 10 → asciiDigit? (digitChar d) = some d := by decide
  exact hall d h

theorem filterMap_digitChars {digits : List Nat} (h : AreDigits digits) :
    (digitChars digits).filterMap asciiDigit? = digits := by
  induction digits with
  | nil => rfl
  | cons digit rest ih =>
      have hdigit := asciiDigit?_digitChar (h digit List.mem_cons_self)
      have hrest := ih fun other hmem => h other (List.mem_cons_of_mem _ hmem)
      unfold digitChars at hrest ⊢
      rw [List.map_cons, List.filterMap_cons_some hdigit, hrest]

end Rulebound
