import Rulebound.Number.Digits

/-!
# Moments

Points in time as the diary writes them: in full, with six places of a second if it is not whole,
and as the stamp of a folder.
-/

namespace Rulebound

structure Instant where
  year : Nat
  month : Nat
  day : Nat
  hour : Nat
  minute : Nat
  second : Nat
  microsecond : Nat
deriving DecidableEq, Repr, Inhabited

namespace Instant

/-- A number with zeros in front, so that it has at least `width` digits. -/
def padded (width n : Nat) : String :=
  let digits := natChars n
  String.ofList (List.replicate (width - digits.length) '0' ++ digits)

def text (t : Instant) : String :=
  padded 4 t.year ++ "-" ++ padded 2 t.month ++ "-" ++ padded 2 t.day ++ "T" ++
    padded 2 t.hour ++ ":" ++ padded 2 t.minute ++ ":" ++ padded 2 t.second ++
    (if t.microsecond = 0 then "" else "." ++ padded 6 t.microsecond) ++ "+00:00"

def stamp (t : Instant) : String :=
  padded 1 t.year ++ "-" ++ padded 2 t.month ++ "-" ++ padded 2 t.day ++ "T" ++
    padded 2 t.hour ++ "-" ++ padded 2 t.minute ++ "-" ++ padded 2 t.second ++ "Z"

/-- The year, the month and the day that are a number of days after the first day of 1970. Years
are counted from their March, so that a leap day comes last. -/
def dateOfDays (days : Nat) : Nat × Nat × Nat :=
  let days := days + 719468
  let inEra := days % 146097
  let yearInEra := (inEra - inEra / 1460 + inEra / 36524 - inEra / 146096) / 365
  let inYear := inEra - (365 * yearInEra + yearInEra / 4 - yearInEra / 100)
  let march := (5 * inYear + 2) / 153
  let month := if march < 10 then march + 3 else march - 9
  let year := yearInEra + days / 146097 * 400 + (if month ≤ 2 then 1 else 0)
  (year, month, inYear - (153 * march + 2) / 5 + 1)

def ofMicroseconds (n : Nat) : Instant :=
  let seconds := n / 1000000
  let (year, month, day) := dateOfDays (seconds / 86400)
  ⟨year, month, day, seconds / 3600 % 24, seconds / 60 % 60, seconds % 60, n % 1000000⟩

end Instant

end Rulebound
