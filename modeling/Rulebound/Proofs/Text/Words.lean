import Mathlib.Data.List.TakeWhile
import Rulebound.Proofs.Text.Blank
import Rulebound.Text.Character
import Rulebound.Text.Search

/-!
# Words between blanks

A word is a text that holds no blank, and words that were joined by blanks are found again by
splitting at blanks. The text they make has no blanks around it.
-/

namespace Rulebound.Text

def IsSolid (word : List Char) : Prop :=
  word ≠ [] ∧ ∀ c ∈ word, isBlank c = false

instance (word : List Char) : Decidable (IsSolid word) :=
  decidable_of_iff (word ≠ [] ∧ word.all fun c => !isBlank c) <| by
    simp [IsSolid]

theorem isBlank_of_mem_space : ∀ c ∈ [' '], isBlank c = true :=
  List.all_eq_true.1 (by decide)

/-- No character of a word is blank: the ranges of the two kinds lie apart. -/
theorem isBlank_of_isWord {c : Char} (h : isWord c = true) : isBlank c = false := by
  have hapart : ∀ word ∈ wordRanges, ∀ blank ∈ blankRanges,
      word.2 < blank.1 ∨ blank.2 < word.1 := by
    decide +kernel
  obtain ⟨word, hword, hin⟩ := List.any_eq_true.1 h
  simp only [Bool.and_eq_true, decide_eq_true_eq] at hin
  refine List.any_eq_false.2 fun blank hblank => ?_
  have hcase := hapart word hword blank hblank
  simp only [Bool.and_eq_true, decide_eq_true_eq]
  omega

/-! ## Trimming -/

section Trim

variable {text front back : List Char}

theorem trimFront_of_blank (h : ∀ c ∈ front, isBlank c = true) (text : List Char) :
    trimFront (front ++ text) = trimFront text := by
  unfold trimFront
  exact List.dropWhile_append_of_pos h

theorem trimFront_append (h : ∃ c ∈ front, isBlank c = false) (text : List Char) :
    trimFront (front ++ text) = trimFront front ++ text := by
  induction front with
  | nil => simp at h
  | cons c front ih =>
      cases hblank : isBlank c with
      | true =>
          have hlater : ∃ d ∈ front, isBlank d = false := by simpa [hblank] using h
          simpa [trimFront, hblank] using ih hlater
      | false => simp [trimFront, hblank]

@[simp] theorem trimFront_trimFront (text : List Char) :
    trimFront (trimFront text) = trimFront text := by
  rcases trimFront_eq_nil_or text with hnil | ⟨c, rest, hc, hcons⟩
  · rw [hnil]
    rfl
  · rw [hcons, trimFront_cons_of_not_isBlank hc]

theorem trimBack_append (h : trimBack back ≠ []) (front : List Char) :
    trimBack (front ++ back) = front ++ trimBack back := by
  induction front with
  | nil => rfl
  | cons c front ih =>
      obtain ⟨d, kept, hkept⟩ := List.exists_cons_of_ne_nil (l := front ++ trimBack back)
        (by simp [h])
      rw [List.cons_append, trimBack_cons_of_cons (ih.trans hkept), List.cons_append, hkept]

theorem trimBack_of_solid (h : ∀ c ∈ text, isBlank c = false) : trimBack text = text := by
  induction text with
  | nil => rfl
  | cons c text ih =>
      have hrest : trimBack text = text := ih fun d hd => h d (List.mem_cons_of_mem c hd)
      cases text with
      | nil => simp [trimBack, h c List.mem_cons_self]
      | cons d text => exact trimBack_cons_of_cons hrest

end Trim

/-! ## Splitting at blanks -/

theorem wordsAux_ne_nil {collected text : List Char}
    (h : collected ≠ [] ∨ ∃ c ∈ text, isBlank c = false) : wordsAux collected text ≠ [] := by
  induction text generalizing collected with
  | nil =>
      cases collected with
      | nil => simp at h
      | cons => simp [wordsAux]
  | cons c text ih =>
      cases hc : isBlank c with
      | false =>
          rw [wordsAux]
          simpa [hc] using ih (.inl (by simp))
      | true =>
          cases collected with
          | nil =>
              rw [wordsAux]
              simpa [hc] using ih (.inr (by simpa [hc] using h))
          | cons =>
              rw [wordsAux]
              simp [hc]

theorem words_trim_ne_nil {text : List Char} (h : ∃ c ∈ text, isBlank c = false) :
    words (trim text) ≠ [] := by
  obtain ⟨c, hc, hfilled⟩ := h
  have hkept : ∃ d ∈ trim text, isBlank d = false := by
    rcases trimFront_eq_nil_or text with hnil | ⟨d, rest, hd, hcons⟩
    · have hblank := List.dropWhile_eq_nil_iff.1 hnil c hc
      rw [hfilled] at hblank
      contradiction
    · obtain ⟨kept, hkept⟩ := exists_trimBack_cons hd rest
      exact ⟨d, by rw [trim, hcons, hkept]; exact List.mem_cons_self, hd⟩
  exact wordsAux_ne_nil (.inr hkept)

/-! ## Joining words -/

theorem wordsAux_solid {word : List Char} (h : ∀ c ∈ word, isBlank c = false)
    (collected rest : List Char) :
    wordsAux collected (word ++ rest) = wordsAux (collected ++ word) rest := by
  induction word generalizing collected with
  | nil => simp
  | cons c word ih =>
      have hrest := ih fun d hd => h d (List.mem_cons_of_mem c hd)
      have hc : isBlank c = false := h c List.mem_cons_self
      rw [List.cons_append, wordsAux]
      simp [hc, hrest]

section Join

variable {words : List (List Char)}

theorem words_joinChars (h : ∀ word ∈ words, IsSolid word) :
    Text.words (joinChars [' '] words) = words := by
  unfold Text.words
  induction words with
  | nil => rfl
  | cons word rest ih =>
      obtain ⟨hne, hsolid⟩ := h word List.mem_cons_self
      obtain ⟨c, kept, rfl⟩ := List.exists_cons_of_ne_nil hne
      have hlater := ih fun other hother => h other (List.mem_cons_of_mem _ hother)
      cases rest with
      | nil =>
          have hlast := wordsAux_solid hsolid [] []
          simpa [joinChars, wordsAux] using hlast
      | cons next rest =>
          have hblank : isBlank ' ' = true := by decide
          rw [joinChars, List.append_assoc, wordsAux_solid hsolid, List.singleton_append,
            List.nil_append, wordsAux, hblank, hlater]
          rfl

theorem trimBack_joinChars (h : ∀ word ∈ words, IsSolid word) :
    trimBack (joinChars [' '] words) = joinChars [' '] words := by
  induction words with
  | nil => rfl
  | cons word rest ih =>
      have hlater := ih fun other hother => h other (List.mem_cons_of_mem _ hother)
      cases rest with
      | nil => exact trimBack_of_solid (h word List.mem_cons_self).2
      | cons next rest =>
          have hnext : next ≠ [] := (h next (by simp)).1
          have hfilled : joinChars [' '] (next :: rest) ≠ [] := by
            cases rest <;> simp [joinChars, hnext]
          rw [joinChars, trimBack_append (hlater.symm ▸ hfilled), hlater]

theorem trim_joinChars (h : ∀ word ∈ words, IsSolid word) :
    trim (joinChars [' '] words) = joinChars [' '] words := by
  have hfront : trimFront (joinChars [' '] words) = joinChars [' '] words := by
    cases words with
    | nil => rfl
    | cons word rest =>
        obtain ⟨hne, hsolid⟩ := h word List.mem_cons_self
        obtain ⟨c, kept, rfl⟩ := List.exists_cons_of_ne_nil hne
        have hc := hsolid c List.mem_cons_self
        cases rest <;> simp [joinChars, trimFront, hc]
  rw [trim, hfront, trimBack_joinChars h]

theorem mem_joinChars {word : List Char} {c : Char} (hword : word ∈ words) (hc : c ∈ word) :
    c ∈ joinChars [' '] words := by
  induction words with
  | nil => simp at hword
  | cons first rest ih =>
      cases rest with
      | nil => simpa [joinChars, List.mem_singleton.1 hword] using hc
      | cons next rest =>
          rcases List.mem_cons.1 hword with rfl | hlater
          · simp [joinChars, hc]
          · simp [joinChars, ih hlater]

theorem newline_not_mem_joinChars (h : ∀ word ∈ words, IsSolid word) :
    '\n' ∉ joinChars [' '] words := by
  have hword : ∀ word ∈ words, '\n' ∉ word := by
    intro word hmem hnewline
    have hblank : isBlank '\n' = false := (h word hmem).2 '\n' hnewline
    exact absurd hblank (by decide)
  clear h
  induction words with
  | nil => simp [joinChars]
  | cons word rest ih =>
      have hlater := ih fun other hother => hword other (List.mem_cons_of_mem _ hother)
      have hfirst := hword word List.mem_cons_self
      cases rest with
      | nil => exact hfirst
      | cons next rest => simp [joinChars, hfirst, hlater]

end Join

end Rulebound.Text
