import Rulebound.Instant
import Rulebound.Proofs.Json.Number

/-!
# Stamps

The stamp of a moment is made of digits, dashes and two letters, and it tells the moment to the
second: moments of different seconds have different stamps.
-/

namespace Rulebound.Instant

/-! ## Padded numbers -/

def paddedDigits (width n : Nat) : List Nat :=
  List.replicate (width - (digitsOf n).length) 0 ++ digitsOf n

theorem areDigits_paddedDigits (width n : Nat) : AreDigits (paddedDigits width n) :=
  areDigits_append.2 ⟨areDigits_replicate_zero _, areDigits_digitsOf n⟩

theorem ofDigits_paddedDigits (width n : Nat) : ofDigits (paddedDigits width n) = n := by
  rw [paddedDigits, ofDigits_append, ofDigits_replicate_zero, ofDigits_digitsOf]
  omega

theorem toList_padded (width n : Nat) :
    (padded width n).toList = digitChars (paddedDigits width n) := by
  have hzero : digitChar 0 = '0' := by decide
  simp [padded, paddedDigits, natChars, digitChars, hzero]

theorem isDigit_of_mem_padded {width n : Nat} {c : Char} (h : c ∈ (padded width n).toList) :
    Json.isDigit c = true := by
  rw [toList_padded] at h
  obtain ⟨d, hd, rfl⟩ := List.mem_map.1 h
  exact Json.isDigit_digitChar (areDigits_paddedDigits width n d hd)

theorem padded_append_inj {width a b : Nat} {x y : List Char} (hx : Json.EndsDigits x)
    (hy : Json.EndsDigits y) (h : (padded width a).toList ++ x = (padded width b).toList ++ y) :
    a = b ∧ x = y := by
  have htaken := congrArg Json.takeDigits h
  rw [toList_padded, toList_padded, Json.takeDigits_append (areDigits_paddedDigits width a) hx,
    Json.takeDigits_append (areDigits_paddedDigits width b) hy] at htaken
  obtain ⟨hdigits, hrest⟩ := Prod.mk.inj htaken
  refine ⟨?_, hrest⟩
  rw [← ofDigits_paddedDigits width a, hdigits, ofDigits_paddedDigits]

/-! ## Stamps -/

/-- A moment without what the stamp leaves out of it. -/
def wholeSecond (t : Instant) : Instant :=
  { t with microsecond := 0 }

theorem toList_stamp (t : Instant) :
    t.stamp.toList = (padded 1 t.year).toList ++ '-' :: ((padded 2 t.month).toList ++
      '-' :: ((padded 2 t.day).toList ++ 'T' :: ((padded 2 t.hour).toList ++
        '-' :: ((padded 2 t.minute).toList ++ '-' :: ((padded 2 t.second).toList ++ ['Z']))))) := by
  have hdash : "-".toList = ['-'] := by decide
  have htime : "T".toList = ['T'] := by decide
  have hzone : "Z".toList = ['Z'] := by decide
  simp [stamp, hdash, htime, hzone]

theorem stamp_eq_iff {s t : Instant} : s.stamp = t.stamp ↔ s.wholeSecond = t.wholeSecond := by
  constructor
  · intro h
    have hchars := congrArg String.toList h
    rw [toList_stamp, toList_stamp] at hchars
    have hdash : ∀ rest, Json.EndsDigits ('-' :: rest) := Json.endsDigits_cons (by decide)
    have htime : ∀ rest, Json.EndsDigits ('T' :: rest) := Json.endsDigits_cons (by decide)
    have hzone : ∀ rest, Json.EndsDigits ('Z' :: rest) := Json.endsDigits_cons (by decide)
    obtain ⟨hyear, hchars⟩ := padded_append_inj (hdash _) (hdash _) hchars
    obtain ⟨hmonth, hchars⟩ := padded_append_inj (hdash _) (hdash _) (List.cons.inj hchars).2
    obtain ⟨hday, hchars⟩ := padded_append_inj (htime _) (htime _) (List.cons.inj hchars).2
    obtain ⟨hhour, hchars⟩ := padded_append_inj (hdash _) (hdash _) (List.cons.inj hchars).2
    obtain ⟨hminute, hchars⟩ := padded_append_inj (hdash _) (hdash _) (List.cons.inj hchars).2
    obtain ⟨hsecond, -⟩ := padded_append_inj (hzone _) (hzone _) (List.cons.inj hchars).2
    rw [wholeSecond, wholeSecond, hyear, hmonth, hday, hhour, hminute, hsecond]
  · intro h
    have hstamp : ∀ t : Instant, t.stamp = t.wholeSecond.stamp := fun _ => rfl
    rw [hstamp s, hstamp t, h]

/-- A stamp can stand in the name of a folder, and no low line is in it. -/
theorem not_mem_stamp (t : Instant) : '/' ∉ t.stamp.toList ∧ '_' ∉ t.stamp.toList := by
  have hdigits : ∀ width n, '/' ∉ (padded width n).toList ∧ '_' ∉ (padded width n).toList := by
    intro width n
    constructor
    · intro h
      exact absurd (isDigit_of_mem_padded h) (by decide)
    · intro h
      exact absurd (isDigit_of_mem_padded h) (by decide)
  rw [toList_stamp]
  simp [hdigits]

end Rulebound.Instant
