import Mathlib.Data.List.Forall2
import Rulebound.Text.Case
import Rulebound.Text.Search

/-!
# Texts joined in two ways

Words joined by low lines and words joined by blanks make texts that differ in these separators
alone, also in lower case. So a text without separators stands within both or within neither.
-/

namespace Rulebound.Text

/-- The same character, or a low line in the one text and a blank in the other. -/
def IsSpaced (c d : Char) : Prop :=
  c = d ∨ (c = '_' ∧ d = ' ')

/-- A text that holds neither a low line nor a blank. -/
def IsUnbroken (text : String) : Prop :=
  ∀ c ∈ text.toList, c ≠ '_' ∧ c ≠ ' '

instance (text : String) : Decidable (IsUnbroken text) :=
  List.decidableBAll (fun c => c ≠ '_' ∧ c ≠ ' ') text.toList

theorem isSpaced_refl (text : List Char) : List.Forall₂ IsSpaced text text :=
  List.forall₂_same.2 fun _ _ => .inl rfl

theorem joinChars_spaced (words : List (List Char)) :
    List.Forall₂ IsSpaced (joinChars ['_'] words) (joinChars [' '] words) := by
  induction words with
  | nil => exact .nil
  | cons word rest ih =>
      cases rest with
      | nil => exact isSpaced_refl word
      | cons next rest =>
          have hmark : List.Forall₂ IsSpaced ['_'] [' '] := .cons (.inr ⟨rfl, rfl⟩) .nil
          exact List.rel_append (List.rel_append (isSpaced_refl word) hmark) ih

/-! ## Lower case -/

section Lower

variable {before after text other : List Char}

/-- Neither separator is passed over when the end of a word is looked for, and neither has case. -/
theorem endsCased_spaced (h : List.Forall₂ IsSpaced text other) :
    endsCased text = endsCased other := by
  induction h with
  | nil => rfl
  | @cons c d rest otherRest hchar _ ih =>
      rcases hchar with rfl | ⟨rfl, rfl⟩
      · by_cases hpassed : inRanges caseIgnorableRanges c = true
        · unfold endsCased
          rw [List.dropWhile_cons_of_pos hpassed, List.dropWhile_cons_of_pos hpassed]
          exact ih
        · unfold endsCased
          rw [List.dropWhile_cons_of_neg hpassed, List.dropWhile_cons_of_neg hpassed]
      · have hline : inRanges caseIgnorableRanges '_' = false := by decide +kernel
        have hblank : inRanges caseIgnorableRanges ' ' = false := by decide +kernel
        have hcase : inRanges casedRanges '_' = inRanges casedRanges ' ' := by decide
        simp [endsCased, hline, hblank, hcase]

theorem lowerAux_spaced (hbefore : List.Forall₂ IsSpaced before after)
    (h : List.Forall₂ IsSpaced text other) :
    List.Forall₂ IsSpaced (lowerAux before text) (lowerAux after other) := by
  induction h generalizing before after with
  | nil => exact .nil
  | @cons c d rest otherRest hchar hrest ih =>
      have htail := ih (.cons hchar hbefore)
      unfold lowerAux
      refine List.rel_append ?_ htail
      rcases hchar with rfl | ⟨rfl, rfl⟩
      · rw [endsCased_spaced hbefore, endsCased_spaced hrest]
        exact isSpaced_refl _
      · exact .cons (.inr ⟨rfl, rfl⟩) .nil

end Lower

/-! ## What stands within -/

section Within

variable {part text other : List Char}

theorem startsWith_spaced (hpart : ∀ c ∈ part, c ≠ '_' ∧ c ≠ ' ')
    (h : List.Forall₂ IsSpaced text other) : startsWith part text = startsWith part other := by
  induction h generalizing part with
  | nil => rfl
  | @cons c d rest otherRest hchar _ ih =>
      cases part with
      | nil => rfl
      | cons p part =>
          have hfirst : (p == c) = (p == d) := by
            rcases hchar with rfl | ⟨rfl, rfl⟩
            · rfl
            · simp [hpart p List.mem_cons_self]
          have hlater := ih fun q hq => hpart q (List.mem_cons_of_mem p hq)
          rw [startsWith, startsWith, hfirst, hlater]

theorem isWithin_spaced (hpart : ∀ c ∈ part, c ≠ '_' ∧ c ≠ ' ')
    (h : List.Forall₂ IsSpaced text other) : isWithin part text = isWithin part other := by
  induction h with
  | nil => rfl
  | cons hchar hrest ih =>
      rw [isWithin, isWithin, startsWith_spaced hpart (.cons hchar hrest), ih]

end Within

/-- A text without separators stands within the name that words make, joined by low lines, if and
only if it stands within the words as they were written. -/
theorem contains_joined {part : String} (hpart : IsUnbroken part) (words : List String) :
    contains (lower (join "_" words)) part = contains (lower (join " " words)) part := by
  have hjoined : List.Forall₂ IsSpaced (join "_" words).toList (join " " words).toList := by
    simpa [join] using joinChars_spaced (words.map String.toList)
  have hlowered := lowerAux_spaced (isSpaced_refl []) hjoined
  unfold contains lower
  rw [String.toList_ofList, String.toList_ofList]
  exact isWithin_spaced hpart hlowered

end Rulebound.Text
