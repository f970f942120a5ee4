import Rulebound.Number.Digits

/-!
# Double-precision numbers

A finite number is a sign and a count of the smallest positive number, `2 ^ -1074`, so order,
sums and rounding are statements about integers. Every operation is its exact result rounded to
the nearest representable number, a tie going to the even significand.
-/

namespace Rulebound

namespace Binary64

/-- How many low bits of a count lie beyond the 53 that a number keeps. -/
def excess (units : Nat) : Nat :=
  units.log2 + 1 - 53

def stepsPerOne : Nat := pow2 1074

/-- The count of `2 ^ 1024`, where numbers become infinite. -/
def overflow : Nat := pow2 2098

/-- The counts that a finite number can have: not too large, and with 53 significant bits. -/
def Representable (units : Nat) : Prop :=
  units < overflow ∧ pow2 (excess units) ∣ units

instance (units : Nat) : Decidable (Representable units) :=
  inferInstanceAs (Decidable (_ ∧ _))

/-- The representable count nearest to `num / den`, when that count is not too large. -/
def roundUnits (num den : Nat) : Nat :=
  let ulp := pow2 (excess (num / den))
  let whole := num / den / ulp
  let rest := num - whole * (den * ulp)
  let up := decide (den * ulp < 2 * rest) || (decide (2 * rest = den * ulp) && whole % 2 == 1)
  (if up then whole + 1 else whole) * ulp

theorem pow2_excess_dvd {whole e : Nat} (h : whole ≤ pow2 53) :
    pow2 (excess (whole * pow2 e)) ∣ whole * pow2 e := by
  by_cases hlt : whole = pow2 53
  · subst hlt
    rw [← pow2_add]
    apply pow2_dvd_pow2
    simp only [excess, log2_pow2]
    omega
  · apply Nat.dvd_trans (pow2_dvd_pow2 (_ : excess (whole * pow2 e) ≤ e)) (Nat.dvd_mul_left _ _)
    by_cases h0 : whole * pow2 e = 0
    · simp [excess, h0]
    · have hb : whole * pow2 e < pow2 (53 + e) := by
        rw [pow2_add]
        exact (Nat.mul_lt_mul_right (pow2_pos e)).2 (Nat.lt_of_le_of_ne h hlt)
      have := (log2_lt_iff_lt_pow2 h0).2 hb
      simp only [excess]
      omega

/-- What remains of a count after its excess bits are dropped has at most 53 bits. -/
theorem div_pow2_excess_lt (units : Nat) : units / pow2 (excess units) < pow2 53 := by
  rw [Nat.div_lt_iff_lt_mul (pow2_pos _), ← pow2_add]
  by_cases h0 : units = 0
  · subst h0
    exact pow2_pos _
  · apply (log2_lt_iff_lt_pow2 h0).1
    simp only [excess]
    omega

theorem pow2_excess_dvd_roundUnits (num den : Nat) :
    pow2 (excess (roundUnits num den)) ∣ roundUnits num den := by
  have h := div_pow2_excess_lt (num / den)
  unfold roundUnits
  apply pow2_excess_dvd
  split <;> omega

end Binary64

inductive Binary64 where
  | nan
  | infinite (negative : Bool)
  | finite (negative : Bool) (units : Nat) (fits : Binary64.Representable units)
deriving DecidableEq, Repr

namespace Binary64

instance : Inhabited Binary64 := ⟨.nan⟩

/-- The nearest number to `num / den` smallest steps; too large a count is infinite. -/
def ofUnits (negative : Bool) (num den : Nat) : Binary64 :=
  if h : roundUnits num den < overflow then
    .finite negative (roundUnits num den) ⟨h, pow2_excess_dvd_roundUnits num den⟩
  else
    .infinite negative

/-- The nearest number to a whole number of smallest steps; zero is positive. -/
def ofSteps (steps : Int) : Binary64 :=
  ofUnits (decide (steps < 0)) steps.natAbs 1

def ofRatio (num : Int) (den : Nat) : Binary64 :=
  ofUnits (decide (num < 0)) (num.natAbs * stepsPerOne) den

def ofInt (n : Int) : Binary64 :=
  ofRatio n 1

def isFinite : Binary64 → Bool
  | finite .. => true
  | _ => false

/-- The nearest number to an integer, if the integer is in range. -/
def ofInt? (n : Int) : Option Binary64 :=
  if (ofInt n).isFinite then some (ofInt n) else none

instance (n : Nat) : OfNat Binary64 n := ⟨ofInt n⟩

def half : Binary64 := ofRatio 1 2

def isNan : Binary64 → Bool
  | nan => true
  | _ => false

def signed (negative : Bool) (units : Nat) : Int :=
  if negative then -units else units

def neg : Binary64 → Binary64
  | nan => nan
  | infinite s => infinite (!s)
  | finite s m h => finite (!s) m h

def abs : Binary64 → Binary64
  | nan => nan
  | infinite _ => infinite false
  | finite _ m h => finite false m h

/-- The sum. Opposite infinities have none, and a zero sum is negative only if both terms are. -/
def add : Binary64 → Binary64 → Binary64
  | nan, _ => nan
  | _, nan => nan
  | infinite s, infinite t => if s = t then infinite s else nan
  | infinite s, finite .. => infinite s
  | finite .., infinite t => infinite t
  | finite s m _, finite t n _ =>
      let sum := signed s m + signed t n
      if sum = 0 then ofUnits (s && t) 0 1 else ofSteps sum

def sub (a b : Binary64) : Binary64 :=
  a.add b.neg

instance : Add Binary64 := ⟨add⟩
instance : Sub Binary64 := ⟨sub⟩
instance : Neg Binary64 := ⟨neg⟩

def lt : Binary64 → Binary64 → Bool
  | nan, _ => false
  | _, nan => false
  | infinite s, infinite t => s && !t
  | infinite s, finite .. => s
  | finite .., infinite t => !t
  | finite s m _, finite t n _ => decide (signed s m < signed t n)

def le : Binary64 → Binary64 → Bool
  | nan, _ => false
  | _, nan => false
  | infinite s, infinite t => s || !t
  | infinite s, finite .. => s
  | finite .., infinite t => !t
  | finite s m _, finite t n _ => decide (signed s m ≤ signed t n)

inductive NotFinite where
  | nan
  | infinite
deriving DecidableEq, Repr

/-- The greatest integer that is at most the number. -/
def floor : Binary64 → Except NotFinite Int
  | nan => .error .nan
  | infinite _ => .error .infinite
  | finite s m _ => .ok (Int.fdiv (signed s m) stepsPerOne)

def toInt? : Binary64 → Option Int
  | finite s m _ => if m % stepsPerOne = 0 then some (signed s (m / stepsPerOne)) else none
  | _ => none

/-- The square root rounded down, two bits at a time. -/
def sqrtAux : Nat → Nat → Nat
  | 0, _ => 0
  | fuel + 1, n =>
      if n = 0 then 0
      else
        let r := 2 * sqrtAux fuel (n / 4)
        if (r + 1) * (r + 1) ≤ n then r + 1 else r

def sqrtFloor (n : Nat) : Nat :=
  sqrtAux (n.log2 / 2 + 1) n

/-- The root of a sum of squares of finite counts, in steps. It is rounded to 53 bits however small
it is, and then to a whole number of steps: it is taken in quarters of a very small part of a step,
with a last bit that says whether anything was cut off. -/
def rootOfSquares (squares : Nat) : Binary64 :=
  let part := pow2 60
  let scaled := 4 * squares * part * part
  let halves := sqrtFloor scaled
  ofUnits false (roundUnits (2 * halves + if halves * halves = scaled then 0 else 1) 4) part

def mul : Binary64 → Binary64 → Binary64
  | nan, _ => nan
  | _, nan => nan
  | infinite s, infinite t => infinite (s != t)
  | infinite s, finite t n _ => if n = 0 then nan else infinite (s != t)
  | finite s m _, infinite t => if m = 0 then nan else infinite (s != t)
  | finite s m _, finite t n _ => ofUnits (s != t) (m * n) stepsPerOne

instance : Mul Binary64 := ⟨mul⟩

def sqrt : Binary64 → Binary64
  | nan => nan
  | infinite s => if s then nan else infinite false
  | finite s m h =>
      if m = 0 then finite s m h else if s then nan else rootOfSquares (m * stepsPerOne)

/-- A sum that starts with one, and what its roundings have cut off so far, after another term. -/
def addKeeping (state : Binary64 × Binary64) (term : Binary64) : Binary64 × Binary64 :=
  let sum := state.1 + term
  (sum, state.2 + ((state.1 - sum) + term))

/-- The length of a vector whose largest component is given, all as parts of that component. -/
def tinyNorm (counts : List Nat) (largest : Nat) : Binary64 :=
  let squares := counts.map fun count =>
    let part := ofUnits false (count * stepsPerOne) largest
    part * part
  let (sum, rest) := squares.foldl addKeeping (1, 0)
  ofUnits false largest 1 * (sum - 1 + rest).sqrt

/-- The count of `2 ^ -1024`, below which no power of two brings a number near to one. -/
def tinyCount : Nat := pow2 50

/-- The length of a vector of finite components, given by their counts. -/
def normOfCounts (counts : List Nat) : Binary64 :=
  let largest := counts.foldl max 0
  if largest = 0 then 0
  else if largest < tinyCount then tinyNorm counts largest
  else rootOfSquares (counts.foldl (fun total count => total + count * count) 0)

/-- The length of a vector. An infinite component wins over one that is no number. -/
def norm (x y z : Binary64) : Binary64 :=
  match x.abs, y.abs, z.abs with
  | finite _ a _, finite _ b _, finite _ c _ => normOfCounts [a, b, c]
  | a, b, c =>
      if [a, b, c].any (fun v => v == infinite false) then infinite false else nan

end Binary64

end Rulebound
