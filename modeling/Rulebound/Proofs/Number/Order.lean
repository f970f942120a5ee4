import Rulebound.Number.Binary64

/-!
# The order of numbers

What is no number is neither below nor above anything. All other numbers, the infinite ones too, are
in a line, on which only the two zeros share a place.
-/

namespace Rulebound.Binary64

variable {a b c : Binary64}

theorem isNan_of_le (h : a.le b = true) : a.isNan = false ∧ b.isNan = false := by
  cases a <;> cases b <;> simp_all [le, isNan]

protected theorem le_refl (h : a.isNan = false) : a.le a = true := by
  cases a with
  | nan => exact nomatch h
  | infinite negative => cases negative <;> rfl
  | finite negative units fits => exact decide_eq_true (Int.le_refl _)

protected theorem le_trans (hab : a.le b = true) (hbc : b.le c = true) : a.le c = true := by
  cases a <;> cases b <;> cases c <;> grind [le]

theorem lt_eq_not_le (ha : a.isNan = false) (hb : b.isNan = false) : a.lt b = !b.le a := by
  cases a <;> cases b <;> grind [lt, le, isNan]

protected theorem le_of_lt (h : a.lt b = true) : a.le b = true := by
  cases a <;> cases b <;> grind [lt, le]

protected theorem lt_of_lt_of_le (hab : a.lt b = true) (hbc : b.le c = true) : a.lt c = true := by
  cases a <;> cases b <;> cases c <;> grind [lt, le]

end Rulebound.Binary64
