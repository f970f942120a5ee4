import Rulebound.Number.Decimal
import Rulebound.Proofs.Number.Shortest

/-!
# The characters of numbers

However a number is written, its text holds nothing but digits, signs, points, and the letters of
an exponent or of a number that is not finite.
-/

namespace Rulebound

def numerals : List Char :=
  "0123456789+-.einfa".toList

def IsNumeral (text : List Char) : Prop :=
  ∀ c ∈ text, c ∈ numerals

instance (text : List Char) : Decidable (IsNumeral text) :=
  List.decidableBAll (· ∈ numerals) text

theorem isNumeral_append {first last : List Char} :
    IsNumeral (first ++ last) ↔ IsNumeral first ∧ IsNumeral last :=
  List.forall_mem_append

theorem isNumeral_cons {c : Char} {text : List Char} :
    IsNumeral (c :: text) ↔ c ∈ numerals ∧ IsNumeral text :=
  List.forall_mem_cons

theorem IsNumeral.not_mem {text : List Char} (h : IsNumeral text) {c : Char}
    (hc : c ∉ numerals) : c ∉ text :=
  fun hmem => hc (h c hmem)

/-! ## Digits -/

section Digits

variable {digits : List Nat}

theorem isNumeral_digitChars (h : AreDigits digits) : IsNumeral (digitChars digits) := by
  have hall : ∀ d, d < 10 → digitChar d ∈ numerals := by decide
  intro c hc
  obtain ⟨d, hd, rfl⟩ := List.mem_map.1 hc
  exact hall d (h d hd)

theorem isNumeral_natChars (n : Nat) : IsNumeral (natChars n) :=
  isNumeral_digitChars (areDigits_digitsOf n)

theorem isNumeral_intText (n : Int) : IsNumeral (intText n).toList := by
  rw [intText, String.toList_ofList, intChars]
  split
  · exact isNumeral_cons.2 ⟨by decide, isNumeral_natChars _⟩
  · exact isNumeral_natChars _

theorem AreDigits.take (h : AreDigits digits) (count : Nat) : AreDigits (digits.take count) :=
  fun d hd => h d (List.mem_of_mem_take hd)

theorem AreDigits.drop (h : AreDigits digits) (count : Nat) : AreDigits (digits.drop count) :=
  fun d hd => h d (List.mem_of_mem_drop hd)

end Digits

/-! ## Layouts -/

theorem isNumeral_exponentChars (e : Int) : IsNumeral (NumberLayout.exponentChars e) := by
  have hdigits := isNumeral_natChars e.natAbs
  unfold NumberLayout.exponentChars
  refine isNumeral_cons.2 ⟨by decide, isNumeral_cons.2 ⟨?_, ?_⟩⟩
  · split <;> decide
  · split
    · exact isNumeral_cons.2 ⟨by decide, hdigits⟩
    · exact hdigits

theorem isNumeral_sign (negative : Bool) {text : List Char} (h : IsNumeral text) :
    IsNumeral (NumberLayout.sign negative text) := by
  unfold NumberLayout.sign
  split
  · exact isNumeral_cons.2 ⟨by decide, h⟩
  · exact h

theorem isNumeral_positional (keepsPoint : Bool) {d : Decimal} (h : AreDigits d.digits) :
    IsNumeral (NumberLayout.positional keepsPoint d) := by
  have hfilled : AreDigits (d.digits.take d.point.toNat ++
      List.replicate (d.point.toNat - (d.digits.take d.point.toNat).length) 0) :=
    areDigits_append.2 ⟨h.take _, areDigits_replicate_zero _⟩
  have hrest : AreDigits (List.replicate (-d.point).toNat 0 ++ d.digits.drop d.point.toNat) :=
    areDigits_append.2 ⟨areDigits_replicate_zero _, h.drop _⟩
  have hfront : ∀ digits : List Nat, AreDigits digits →
      IsNumeral (if digits.isEmpty then ['0'] else digitChars digits) := by
    intro digits hdigits
    split
    · decide
    · exact isNumeral_digitChars hdigits
  unfold NumberLayout.positional
  dsimp only
  split
  · split
    · exact isNumeral_append.2 ⟨hfront _ hfilled, by decide⟩
    · exact hfront _ hfilled
  · exact isNumeral_append.2 ⟨hfront _ hfilled,
      isNumeral_cons.2 ⟨by decide, isNumeral_digitChars hrest⟩⟩

namespace Binary64

theorem isNumeral_pointed (always : Bool) {whole fraction : List Char} (hwhole : IsNumeral whole)
    (hfraction : IsNumeral fraction) : IsNumeral (pointed always whole fraction) := by
  unfold pointed
  split
  · exact hwhole
  · exact isNumeral_append.2 ⟨hwhole, isNumeral_cons.2 ⟨by decide, hfraction⟩⟩

theorem isNumeral_fixedChars (always : Bool) (places units : Nat) :
    IsNumeral (fixedChars always places units) := by
  have hdigits := isNumeral_natChars (roundDiv (units * pow10 places) stepsPerOne)
  have hfilled : ∀ count, IsNumeral (List.replicate count '0' ++
      natChars (roundDiv (units * pow10 places) stepsPerOne)) := fun count =>
    isNumeral_append.2 ⟨fun c hc => List.eq_of_mem_replicate hc ▸ by decide, hdigits⟩
  exact isNumeral_pointed always (fun c hc => hfilled _ c (List.mem_of_mem_take hc))
    (fun c hc => hfilled _ c (List.mem_of_mem_drop hc))

theorem areDigits_significant (size units : Nat) : AreDigits (significant size units).digits := by
  unfold significant
  split
  · exact areDigits_replicate_zero size
  · exact (areDigits_digitsOf _).take size

theorem isNumeral_exponential (always : Bool) {d : Decimal} (h : AreDigits d.digits) :
    IsNumeral (exponential always d) :=
  isNumeral_append.2 ⟨isNumeral_pointed always (isNumeral_digitChars (h.take 1))
    (isNumeral_digitChars (h.drop 1)), isNumeral_exponentChars _⟩

theorem isNumeral_generalChars (size units : Nat) :
    IsNumeral (generalChars false size units) := by
  have hkept : AreDigits (significant (max size 1) units).trim.digits :=
    AreDigits.trim (areDigits_significant _ _)
  unfold generalChars
  simp only [Bool.false_eq_true, if_false, Bool.false_and]
  split
  · exact isNumeral_positional false hkept
  · exact isNumeral_exponential false hkept

theorem isNumeral_writeBy {layout : Nat → List Char} (h : ∀ units, IsNumeral (layout units))
    (x : Binary64) : IsNumeral (x.writeBy layout) := by
  have hnan : IsNumeral "nan".toList := by decide
  cases x with
  | nan => exact hnan
  | infinite negative => exact isNumeral_sign negative (by decide)
  | finite negative units hrep => exact isNumeral_sign negative (h units)

theorem isNumeral_generalText (x : Binary64) : IsNumeral x.generalText.toList := by
  rw [generalText, String.toList_ofList]
  exact isNumeral_writeBy (isNumeral_generalChars 6) x

theorem isNumeral_tenthsText (x : Binary64) : IsNumeral x.tenthsText.toList := by
  rw [tenthsText, String.toList_ofList]
  exact isNumeral_writeBy (isNumeral_fixedChars false 1) x

end Binary64

end Rulebound
