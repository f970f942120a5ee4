import Rulebound.Proofs.Text.Words

/-!
# Words and the blanks around them

What trimming keeps of a text and into which words a text is split, said as relations between the
text and its parts. Each of them holds of one result only, and that is the one that is found.
-/

namespace Rulebound.Text

/-! ## Blanks around a text -/

def IsTight (text : List Char) : Prop :=
  (∀ c ∈ text.head?, isBlank c = false) ∧ ∀ c ∈ text.getLast?, isBlank c = false

/-- What is left of a text without the blanks around it. -/
def Strips (text kept : List Char) : Prop :=
  IsTight kept ∧
    ∃ front back, text = front ++ (kept ++ back) ∧ ∀ c ∈ front ++ back, isBlank c = true

section Trim

variable {text kept back : List Char}

theorem trimFront_of_head (h : ∀ c ∈ text.head?, isBlank c = false) : trimFront text = text := by
  cases text with
  | nil => rfl
  | cons c rest => exact trimFront_cons_of_not_isBlank (h c rfl) rest

theorem trimBack_of_last (h : ∀ c ∈ text.getLast?, isBlank c = false) : trimBack text = text := by
  induction text with
  | nil => rfl
  | cons c rest ih =>
      cases rest with
      | nil => simp [trimBack, h c rfl]
      | cons d rest => exact trimBack_cons_of_cons (ih fun e he => h e (by simpa using he))

theorem trimBack_append_blank (h : ∀ c ∈ back, isBlank c = true) (text : List Char) :
    trimBack (text ++ back) = trimBack text := by
  have hback : trimBack back = [] := by
    induction back with
    | nil => rfl
    | cons c back ih =>
        have hrest := ih fun d hd => h d (List.mem_cons_of_mem c hd)
        simp [trimBack, hrest, h c List.mem_cons_self]
  induction text with
  | nil => exact hback
  | cons c rest ih => simp [trimBack, ih]

theorem head_trimFront (text : List Char) : ∀ c ∈ (trimFront text).head?, isBlank c = false := by
  intro c hc
  rcases trimFront_eq_nil_or text with hnil | ⟨d, rest, hd, hcons⟩
  · simp [hnil] at hc
  · obtain rfl : d = c := by simpa [hcons] using hc
    exact hd

theorem last_trimBack (text : List Char) : ∀ c ∈ (trimBack text).getLast?, isBlank c = false := by
  induction text with
  | nil => simp [trimBack]
  | cons c rest ih =>
      cases hrest : trimBack rest with
      | nil =>
          by_cases hblank : isBlank c = true
          · simp [trimBack, hrest, hblank]
          · simp [trimBack, hrest, hblank]
      | cons d kept =>
          rw [hrest] at ih
          simpa [trimBack_cons_of_cons hrest] using ih

theorem exists_trimBack_append (text : List Char) :
    ∃ back, text = trimBack text ++ back ∧ ∀ c ∈ back, isBlank c = true := by
  induction text with
  | nil => exact ⟨[], rfl, nofun⟩
  | cons c rest ih =>
      obtain ⟨back, hrest, hback⟩ := ih
      cases hkept : trimBack rest with
      | nil =>
          have hall : rest = back := by simpa [hkept] using hrest
          subst hall
          by_cases hblank : isBlank c = true
          · exact ⟨c :: rest, by simp [trimBack, hkept, hblank], by simpa [hblank]⟩
          · exact ⟨rest, by simp [trimBack, hkept, hblank], hback⟩
      | cons d kept =>
          rw [hkept] at hrest
          exact ⟨back, by rw [trimBack_cons_of_cons hkept, hrest]; rfl, hback⟩

theorem isTight_trim (text : List Char) : IsTight (trim text) := by
  refine ⟨?_, last_trimBack _⟩
  intro c hc
  rcases trimFront_eq_nil_or text with hnil | ⟨d, rest, hd, hcons⟩
  · simp [trim, hnil, trimBack] at hc
  · obtain ⟨kept, hkept⟩ := exists_trimBack_cons hd rest
    obtain rfl : d = c := by simpa [trim, hcons, hkept] using hc
    exact hd

/-- Trimming gives what is left without the blanks around a text, and nothing else is that. -/
theorem strips_iff : Strips text kept ↔ trim text = kept := by
  constructor
  · intro ⟨⟨hhead, hlast⟩, front, back, htext, hblank⟩
    have hfront : ∀ c ∈ front, isBlank c = true := fun c hc =>
      hblank c (List.mem_append_left back hc)
    have hback : ∀ c ∈ back, isBlank c = true := fun c hc =>
      hblank c (List.mem_append_right front hc)
    rw [htext, trim, trimFront_of_blank hfront]
    cases hkept : kept with
    | nil =>
        have hnothing := trimFront_of_blank hback []
        rw [List.append_nil] at hnothing
        rw [List.nil_append, hnothing]
        rfl
    | cons c rest =>
        have hwhole : trimFront (kept ++ back) = kept ++ back :=
          trimFront_of_head (by simpa [hkept] using hhead)
        rw [← hkept, hwhole, trimBack_append_blank hback, trimBack_of_last hlast]
  · rintro rfl
    obtain ⟨back, hsplit, hback⟩ := exists_trimBack_append (trimFront text)
    refine ⟨isTight_trim text, text.takeWhile isBlank, back, ?_, ?_⟩
    · rw [trim, ← hsplit, trimFront, List.takeWhile_append_dropWhile]
    · intro c hc
      rcases List.mem_append.1 hc with hfront | hlater
      · exact List.mem_takeWhile_imp hfront
      · exact hback c hlater

end Trim

/-! ## Words between blanks -/

/-- The words of a text: its longest pieces without blanks, one after another. -/
inductive Splits : List Char → List (List Char) → Prop
  | blank {gap : List Char} (hgap : ∀ c ∈ gap, isBlank c = true) : Splits gap []
  | word {gap word rest : List Char} {words : List (List Char)}
      (hgap : ∀ c ∈ gap, isBlank c = true) (hword : IsSolid word)
      (hends : ∀ c ∈ rest.head?, isBlank c = true) (hrest : Splits rest words) :
      Splits (gap ++ (word ++ rest)) (word :: words)

section Splits

variable {text : List Char} {pieces : List (List Char)}

theorem Splits.cons_blank {c : Char} (hc : isBlank c = true) (h : Splits text pieces) :
    Splits (c :: text) pieces := by
  cases h with
  | blank hgap => exact .blank (by simpa [hc] using hgap)
  | word hgap hword hends hrest =>
      rw [← List.cons_append]
      exact .word (by simpa [hc] using hgap) hword hends hrest

theorem Splits.solid (h : Splits text pieces) : ∀ piece ∈ pieces, IsSolid piece := by
  induction h with
  | blank => nofun
  | word _ hword _ _ ih => simpa [hword] using ih

theorem splits_wordsAux {collected : List Char} (h : ∀ c ∈ collected, isBlank c = false)
    (text : List Char) : Splits (collected ++ text) (wordsAux collected text) := by
  -- a word that is complete stands in front of whatever the rest is split into
  have hcomplete : ∀ {word rest : List Char} {pieces : List (List Char)}, word ≠ [] →
      (∀ c ∈ word, isBlank c = false) → (∀ c ∈ rest.head?, isBlank c = true) →
      Splits rest pieces → Splits (word ++ rest) (word :: pieces) := by
    intro word rest pieces hne hword hends hrest
    have hnone : ∀ c ∈ ([] : List Char), isBlank c = true := nofun
    simpa using Splits.word hnone ⟨hne, hword⟩ hends hrest
  induction text generalizing collected with
  | nil =>
      cases collected with
      | nil => exact .blank nofun
      | cons c collected => exact hcomplete (List.cons_ne_nil c collected) h nofun (.blank nofun)
  | cons c rest ih =>
      cases hc : isBlank c with
      | true =>
          have hfresh : ∀ d ∈ ([] : List Char), isBlank d = false := nofun
          have hlater : Splits (c :: rest) (wordsAux [] rest) := .cons_blank hc (ih hfresh)
          cases collected with
          | nil => simpa [wordsAux, hc] using hlater
          | cons d collected =>
              have hword := hcomplete (List.cons_ne_nil d collected) h (by simpa using hc) hlater
              simpa [wordsAux, hc] using hword
      | false =>
          have hlonger : ∀ d ∈ collected ++ [c], isBlank d = false := by
            simpa [or_imp, forall_and, hc] using h
          simpa [wordsAux, hc] using ih hlonger

theorem words_blank_append {gap : List Char} (h : ∀ c ∈ gap, isBlank c = true)
    (text : List Char) : words (gap ++ text) = words text := by
  unfold words
  induction gap with
  | nil => rfl
  | cons c gap ih =>
      have hrest := ih fun d hd => h d (List.mem_cons_of_mem c hd)
      simpa [wordsAux, h c List.mem_cons_self] using hrest

theorem words_solid_append {word rest : List Char} (hword : IsSolid word)
    (hends : ∀ c ∈ rest.head?, isBlank c = true) : words (word ++ rest) = word :: words rest := by
  unfold words
  rw [wordsAux_solid hword.2, List.nil_append]
  obtain ⟨d, kept, rfl⟩ := List.exists_cons_of_ne_nil hword.1
  cases rest with
  | nil => rfl
  | cons c rest => simp [wordsAux, hends c rfl]

/-- Splitting gives the words of a text, and nothing else is that. -/
theorem splits_iff : Splits text pieces ↔ words text = pieces := by
  constructor
  · intro h
    induction h with
    | blank hgap => simpa [words, wordsAux] using words_blank_append hgap []
    | word hgap hword hends _ ih =>
        rw [words_blank_append hgap, words_solid_append hword hends, ih]
  · rintro rfl
    have hnone : ∀ c ∈ ([] : List Char), isBlank c = false := by simp
    exact splits_wordsAux hnone text

theorem IsTight.words_ne_nil (h : IsTight text) (hne : text ≠ []) : words text ≠ [] := by
  obtain ⟨c, rest, rfl⟩ := List.exists_cons_of_ne_nil hne
  exact wordsAux_ne_nil (.inr ⟨c, List.mem_cons_self, h.1 c rfl⟩)

end Splits

end Rulebound.Text
