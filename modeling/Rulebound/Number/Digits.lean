/-!
# Powers and digits

The powers of the two bases in which numbers are counted and written, and decimal digits.
-/

namespace Rulebound

/-!
## Powers

The powers of the two bases in which numbers are counted and written.
-/

def pow2 (e : Nat) : Nat := Nat.pow 2 e

def pow10 (e : Nat) : Nat := Nat.pow 10 e

theorem pow2_pos (e : Nat) : 0 < pow2 e :=
  Nat.two_pow_pos e

theorem pow2_add (a b : Nat) : pow2 (a + b) = pow2 a * pow2 b :=
  Nat.pow_add 2 a b

theorem pow2_dvd_pow2 {a b : Nat} (h : a ≤ b) : pow2 a ∣ pow2 b :=
  Nat.pow_dvd_pow 2 h

theorem log2_pow2 (e : Nat) : (pow2 e).log2 = e :=
  Nat.log2_two_pow

theorem log2_lt_iff_lt_pow2 {n e : Nat} (h : n ≠ 0) : n.log2 < e ↔ n < pow2 e :=
  Nat.log2_lt h

/-!
## Decimal digits

The decimal digits of a natural number, most significant first, and the number that a row of
digits stands for.
-/

def ofDigits (digits : List Nat) : Nat :=
  digits.foldl (fun n d => 10 * n + d) 0

def digitsAux : Nat → Nat → List Nat → List Nat
  | 0, _, rest => rest
  | fuel + 1, n, rest =>
      if n < 10 then n :: rest else digitsAux fuel (n / 10) (n % 10 :: rest)

def digitsOf (n : Nat) : List Nat :=
  digitsAux (n.log2 + 1) n []

/-- The most digits of an integer that are read from a text or written into one. -/
def longestInteger : Nat := 4300

def digitChar (d : Nat) : Char :=
  Char.ofNat ('0'.toNat + d)

def digitChars (digits : List Nat) : List Char :=
  digits.map digitChar

def asciiDigit? (c : Char) : Option Nat :=
  if '0' ≤ c ∧ c ≤ '9' then some (c.toNat - '0'.toNat) else none

def natChars (n : Nat) : List Char :=
  digitChars (digitsOf n)

def intChars (n : Int) : List Char :=
  if n < 0 then '-' :: natChars n.natAbs else natChars n.natAbs

def intText (n : Int) : String :=
  String.ofList (intChars n)

end Rulebound
