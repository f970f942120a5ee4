import Rulebound.Text.Case

/-!
# What lower case keeps apart

Lower case makes no slash: a text holds one in lower case only if it held one before. Nor does it
leave an ASCII capital, or make anything vanish.
-/

namespace Rulebound.Text

theorem ofNat_ne {n : Nat} {c : Char} (hpos : 0 < c.toNat) (hless : c.toNat < n) :
    Char.ofNat n ≠ c := by
  rintro rfl
  by_cases hvalid : n.isValidChar
  · rw [Char.ofNat, dif_pos hvalid] at hless
    exact Nat.lt_irrefl n hless
  · rw [Char.ofNat, dif_neg hvalid] at hpos
    exact Nat.lt_irrefl 0 hpos

/-- The lower case of a character is the one of ASCII, or it lies beyond the ASCII capitals. -/
theorem lowerChar_cases (c : Char) :
    (c.toNat < 128 ∧ lowerChar c = c.toLower) ∨ (128 ≤ c.toNat ∧ lowerChar c = c) ∨
      ∃ n, 96 < n ∧ lowerChar c = Char.ofNat n := by
  have hruns : ∀ run ∈ caseRuns, (96 : Int) < run.first + run.shift := by decide +kernel
  unfold lowerChar
  split
  · rename_i hlow
    exact .inl ⟨hlow, rfl⟩
  · split
    · rename_i run hfind
      have hmem := hruns run (List.mem_of_find?_eq_some hfind)
      have hholds := List.find?_some hfind
      simp only [CaseRun.holds, Bool.and_eq_true, decide_eq_true_eq] at hholds
      exact .inr (.inr ⟨_, by omega, rfl⟩)
    · exact .inr (.inl ⟨by omega, rfl⟩)

theorem lowerChar_eq_slash {c : Char} (h : lowerChar c = '/') : c = '/' := by
  have hascii : ∀ n < 128, (Char.ofNat n).toLower = '/' → Char.ofNat n = '/' := by decide
  rcases lowerChar_cases c with ⟨hlow, hlower⟩ | ⟨-, hsame⟩ | ⟨n, hn, hchar⟩
  · have hslash := hascii c.toNat hlow
    rw [Char.ofNat_toNat] at hslash
    exact hslash (hlower ▸ h)
  · exact hsame ▸ h
  · exact absurd (hchar.symm.trans h) (ofNat_ne (by decide) (Nat.lt_trans (by decide) hn))

theorem isUpper_lowerChar (c : Char) : (lowerChar c).isUpper = false := by
  have hascii : ∀ n < 128, (Char.ofNat n).toLower.isUpper = false := by decide
  have hrange : ∀ d : Char, d.isUpper = true → 65 ≤ d.toNat ∧ d.toNat ≤ 90 := by
    intro d hd
    obtain ⟨hleast, hmost⟩ : 'A'.val ≤ d.val ∧ d.val ≤ 'Z'.val := of_decide_eq_true hd
    exact ⟨UInt32.le_iff_toNat_le.1 hleast, UInt32.le_iff_toNat_le.1 hmost⟩
  rcases lowerChar_cases c with ⟨hlow, hlower⟩ | ⟨hhigh, hsame⟩ | ⟨n, hn, hchar⟩
  · have hsmall := hascii c.toNat hlow
    rw [Char.ofNat_toNat] at hsmall
    rw [hlower, hsmall]
  · rw [hsame, Bool.eq_false_iff]
    intro hupper
    have hbound := (hrange c hupper).2
    omega
  · rw [hchar, Bool.eq_false_iff]
    intro hupper
    obtain ⟨hleast, hmost⟩ := hrange (Char.ofNat n) hupper
    have hne : Char.ofNat n ≠ Char.ofNat n := ofNat_ne (by omega) (by omega)
    exact hne rfl

/-- Every character of a lower case is one of the four that stand for a capital sigma or a dotted
capital I, or the lower case of a character by itself. -/
theorem mem_lowerAux {before text : List Char} {d : Char} (h : d ∈ lowerAux before text) :
    d ∈ ['ς', 'σ', 'i', '\u0307'] ∨ ∃ c ∈ text, d = lowerChar c := by
  induction text generalizing before with
  | nil => exact nomatch h
  | cons c rest ih =>
      unfold lowerAux at h
      rcases List.mem_append.1 h with hfirst | hrest
      · split at hfirst
        · split at hfirst <;> simp [List.mem_singleton.1 hfirst]
        · split at hfirst
          · simp only [List.mem_cons, List.not_mem_nil, or_false] at hfirst
            rcases hfirst with rfl | rfl <;> simp
          · exact .inr ⟨c, List.mem_cons_self, List.mem_singleton.1 hfirst⟩
      · rcases ih hrest with hspecial | ⟨other, hmem, hother⟩
        · exact .inl hspecial
        · exact .inr ⟨other, List.mem_cons_of_mem c hmem, hother⟩

theorem isUpper_of_mem_lower {text : String} {c : Char} (h : c ∈ (lower text).toList) :
    c.isUpper = false := by
  rw [lower, String.toList_ofList] at h
  rcases mem_lowerAux h with hspecial | ⟨d, -, rfl⟩
  · have hall : (['ς', 'σ', 'i', '\u0307'].all fun d => !d.isUpper) = true := by decide
    simpa using List.all_eq_true.1 hall c hspecial
  · exact isUpper_lowerChar d

theorem lower_ne_empty {text : String} (h : text ≠ "") : lower text ≠ "" := by
  obtain ⟨c, rest, htext⟩ : ∃ c rest, text.toList = c :: rest :=
    List.exists_cons_of_ne_nil fun hnil => h (String.toList_eq_nil_iff.1 hnil)
  intro hlower
  have hchars : lowerChars (c :: rest) = [] := by
    simpa [lower, htext] using congrArg String.toList hlower
  rw [lowerChars, lowerAux, List.append_eq_nil_iff] at hchars
  have hfirst := hchars.1
  split at hfirst
  · exact nomatch hfirst
  · split at hfirst <;> exact nomatch hfirst

theorem slash_of_mem_lower {text : String} (h : '/' ∈ (lower text).toList) :
    '/' ∈ text.toList := by
  rw [lower, String.toList_ofList] at h
  rcases mem_lowerAux h with hspecial | ⟨c, hmem, hlower⟩
  · exact absurd hspecial (by decide)
  · exact lowerChar_eq_slash hlower.symm ▸ hmem

end Rulebound.Text
