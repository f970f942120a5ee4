import Rulebound.Number.Binary64
import Rulebound.Number.Digits

/-!
# Decimals

Both directions between decimals and double-precision numbers, and the layouts in which numbers are
written.
-/

namespace Rulebound

/-!
## Decimals and doubles

Both directions between decimals and double-precision numbers: a decimal is read as the nearest
number, and a number has a shortest decimal, the fewest digits that are read back as that number.
-/

/-- The decimal `0.d₁d₂… × 10 ^ point`, for the digits `d₁d₂…`. -/
structure Decimal where
  digits : List Nat
  point : Int
deriving DecidableEq, Repr

namespace Decimal

/-- The nearest number to a decimal. Far outside the range it is infinite or zero without any
power of ten being formed. -/
def toBinary64 (negative : Bool) (d : Decimal) : Binary64 :=
  let digits := d.digits.dropWhile (· == 0)
  let point := d.point - (d.digits.length - digits.length : Nat)
  let shift := point - digits.length
  if digits.isEmpty then Binary64.ofUnits negative 0 1
  else if 400 < point then .infinite negative
  else if point < -400 then Binary64.ofUnits negative 0 1
  else
    Binary64.ofUnits negative (ofDigits digits * pow10 shift.toNat * Binary64.stepsPerOne)
      (pow10 (-shift).toNat)

def trim (d : Decimal) : Decimal :=
  { d with digits := (d.digits.reverse.dropWhile (· == 0)).reverse }

def ofCount (count : Nat) (exponent : Int) : Decimal :=
  let digits := digitsOf count
  ⟨digits, exponent + digits.length⟩

end Decimal

namespace Binary64

/-- The point of the shortest decimals of a positive count: the number is below `10 ^ point` and
at least a tenth of that. -/
def decimalPoint (units : Nat) : Int :=
  (digitsOf (units * pow10 400 / stepsPerOne)).length - 400

/-- The distance from a positive count to the next smaller one. -/
def gapBelow (units : Nat) : Nat :=
  let ulp := pow2 (excess units)
  if units = pow2 units.log2 ∧ 1 < ulp then ulp / 2 else ulp

/-- Whether `count × 10 ^ exponent` is read as the given positive count of steps: it lies within
half a gap of it, the ends included if the significand is even. All in quarter steps. -/
def readsAs (units count : Nat) (exponent : Int) : Bool :=
  let scale := pow10 (-exponent).toNat
  let value := 4 * count * pow10 exponent.toNat * stepsPerOne
  let low := (4 * units - 2 * gapBelow units) * scale
  let high := (4 * units + 2 * pow2 (excess units)) * scale
  if units / pow2 (excess units) % 2 = 0 then decide (low ≤ value ∧ value ≤ high)
  else decide (low < value ∧ value < high)

/-- The multiple of `10 ^ exponent` that is read as the given count, if there is one: of the two
neighbours the nearer, and of two equally near the even one. -/
def onGrid? (units : Nat) (exponent : Int) : Option Nat :=
  let scale := units * pow10 (-exponent).toNat
  let step := pow10 exponent.toNat * stepsPerOne
  let below := scale / step
  let rest := scale % step
  match readsAs units below exponent, readsAs units (below + 1) exponent with
  | true, true =>
      if 2 * rest < step ∨ (2 * rest = step ∧ below % 2 = 0) then some below else some (below + 1)
  | true, false => some below
  | false, true => some (below + 1)
  | false, false => none

def shortestAux (units : Nat) (point : Int) : Nat → Nat → Option Decimal
  | 0, _ => none
  | fuel + 1, size =>
      match onGrid? units (point - size) with
      | some count => some (Decimal.ofCount count (point - size)).trim
      | none => shortestAux units point fuel (size + 1)

/-- The shortest decimal that is read as the given positive count of steps. Seventeen digits
always suffice. -/
def shortest (units : Nat) : Decimal :=
  (shortestAux units (decimalPoint units) 17 1).getD ⟨[0], 1⟩

/-- The nearest integer to `num / den`, a half going to the even neighbour. -/
def roundDiv (num den : Nat) : Nat :=
  let whole := num / den
  let rest := num % den
  if den < 2 * rest ∨ (2 * rest = den ∧ whole % 2 = 1) then whole + 1 else whole

/-- The nearest decimal of the given number of digits to a positive count of steps, a half going
to the even neighbour. -/
def toDigits (units size : Nat) : Decimal :=
  let exponent := decimalPoint units - size
  Decimal.ofCount
    (roundDiv (units * pow10 (-exponent).toNat) (pow10 exponent.toNat * stepsPerOne)) exponent

end Binary64

/-!
## How numbers are written

Four layouts: the shortest decimal that is read back, a number of places after the point, a number
of significant digits, and digits with an exponent. All write the sign of a negative zero.
-/

/-- The decisions of a layout that changes to an exponent for very large and very small numbers:
a number is positional if its leading digit stands in a place from `least` up to below `most`. -/
structure NumberLayout where
  least : Int
  most : Int
  /-- Whether a whole number keeps a point and a zero. -/
  keepsPoint : Bool
  nan : String
  infinite : String

namespace NumberLayout

/-- Numbers in messages: `64.0`, `1e-05`, `nan`, `inf`. -/
def plain : NumberLayout := ⟨-4, 16, true, "nan", "inf"⟩

/-- Numbers in written records: as in messages, but `NaN` and `Infinity`. -/
def record : NumberLayout := ⟨-4, 16, true, "NaN", "Infinity"⟩

def exponentChars (e : Int) : List Char :=
  let digits := natChars e.natAbs
  'e' :: (if e < 0 then '-' else '+') :: (if digits.length < 2 then '0' :: digits else digits)

/-- Digits with the point after the first `point` of them, zeros filling the places between. -/
def positional (keepsPoint : Bool) (d : Decimal) : List Char :=
  let whole := d.digits.take d.point.toNat
  let filled := whole ++ List.replicate (d.point.toNat - whole.length) 0
  let rest := List.replicate (-d.point).toNat 0 ++ d.digits.drop d.point.toNat
  let front := if filled.isEmpty then ['0'] else digitChars filled
  if rest.isEmpty then (if keepsPoint then front ++ ['.', '0'] else front)
  else front ++ '.' :: digitChars rest

/-- One digit, the others after a point if there are any, and the exponent of the first. -/
def scientific (d : Decimal) : List Char :=
  let tail := digitChars (d.digits.drop 1)
  digitChars (d.digits.take 1) ++ (if tail.isEmpty then [] else '.' :: tail)
    ++ exponentChars (d.point - 1)

def ofDecimal (layout : NumberLayout) (d : Decimal) : List Char :=
  if layout.least ≤ d.point - 1 ∧ d.point - 1 < layout.most then positional layout.keepsPoint d
  else scientific d

def sign (negative : Bool) (text : List Char) : List Char :=
  if negative then '-' :: text else text

/-- A number in the layout, its positive counts turned into decimals by `pick`. -/
def write (layout : NumberLayout) (pick : Nat → Decimal) : Binary64 → List Char
  | .nan => layout.nan.toList
  | .infinite s => sign s layout.infinite.toList
  | .finite s units _ =>
      sign s (layout.ofDecimal (if units = 0 then ⟨[0], 1⟩ else pick units))

end NumberLayout

namespace Binary64

def text (x : Binary64) : String :=
  String.ofList (NumberLayout.plain.write shortest x)

def recordChars (x : Binary64) : List Char :=
  NumberLayout.record.write shortest x

/-! ## Fixed numbers of digits -/

/-- Digits before and after a point; a point without digits after it is written only if asked
for. -/
def pointed (always : Bool) (whole fraction : List Char) : List Char :=
  if fraction.isEmpty && !always then whole else whole ++ '.' :: fraction

/-- A count of steps with so many places after the point, a half going to the even neighbour. -/
def fixedChars (always : Bool) (places units : Nat) : List Char :=
  let digits := natChars (roundDiv (units * pow10 places) stepsPerOne)
  let filled := List.replicate (places + 1 - digits.length) '0' ++ digits
  let point := filled.length - places
  pointed always (filled.take point) (filled.drop point)

/-- The nearest decimal of so many significant digits to a count of steps. -/
def significant (size units : Nat) : Decimal :=
  if units = 0 then ⟨List.replicate size 0, 1⟩
  else { toDigits units size with digits := (toDigits units size).digits.take size }

/-- A decimal with one digit before the point, and its exponent. -/
def exponential (always : Bool) (d : Decimal) : List Char :=
  pointed always (digitChars (d.digits.take 1)) (digitChars (d.digits.drop 1)) ++
    NumberLayout.exponentChars (d.point - 1)

/-- A count of steps with an exponent and so many places after the point. -/
def exponentialChars (always : Bool) (places units : Nat) : List Char :=
  exponential always (significant (places + 1) units)

/-- A count of steps with so many significant digits, positional if it is neither too small nor has
more digits before the point; zeros at the end and a point after them are written only if asked
for. -/
def generalChars (always : Bool) (size units : Nat) : List Char :=
  let full := significant (max size 1) units
  let d := if always then full else full.trim
  if -4 ≤ full.point - 1 ∧ full.point ≤ max size 1 then
    let text := NumberLayout.positional false d
    if always && !text.contains '.' then text ++ ['.'] else text
  else exponential always d

/-- A number with its sign, its count of steps written by `layout`. -/
def writeBy (layout : Nat → List Char) : Binary64 → List Char
  | .nan => "nan".toList
  | .infinite s => NumberLayout.sign s "inf".toList
  | .finite s units _ => NumberLayout.sign s (layout units)

/-- Six significant digits, without zeros at the end. -/
def generalText (x : Binary64) : String :=
  String.ofList (x.writeBy (generalChars false 6))

/-- One digit after the point, a half going to the even neighbour. -/
def tenthsText (x : Binary64) : String :=
  String.ofList (x.writeBy (fixedChars false 1))

end Binary64

end Rulebound
