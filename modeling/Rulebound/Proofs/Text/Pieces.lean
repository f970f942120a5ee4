import Mathlib.Data.List.Infix
import Rulebound.Text.Search

/-!
# Pieces of a text

What a search finds, and the pieces into which a text is cut at its separators.
-/

namespace Rulebound.Text

/-!
## What a search finds

A text is found in another exactly if it stands there in one piece.
-/

theorem startsWith_iff {part text : List Char} : startsWith part text = true ↔ part <+: text := by
  induction part generalizing text with
  | nil => simp [startsWith]
  | cons c part ih =>
      cases text with
      | nil => simp [startsWith]
      | cons d text => simp [startsWith, ih, List.cons_prefix_cons]

theorem isWithin_iff {part text : List Char} : isWithin part text = true ↔ part <:+: text := by
  induction text with
  | nil => simp [isWithin]
  | cons c text ih => simp [isWithin, startsWith_iff, ih, List.infix_cons_iff]

theorem contains_iff {text part : String} :
    contains text part = true ↔ part.toList <:+: text.toList :=
  isWithin_iff

@[simp] theorem contains_self (text : String) : contains text text = true :=
  contains_iff.2 (List.infix_refl _)

/-!
## Pieces of a text

A text is cut at its separators into pieces, and pieces that were joined are what it is cut into,
unless a separator is within one of them. Each piece that was joined stands in the text unchanged.
-/

variable {separator : Char}

/-- What follows a text without any separator goes on with its last piece. -/
theorem exists_splitChars (separator : Char) (text : List Char) :
    ∃ pieces last, ∀ more, separator ∉ more →
      splitChars separator (text ++ more) = pieces ++ [last ++ more] := by
  induction text with
  | nil =>
      refine ⟨[], [], ?_⟩
      intro more hmore
      induction more with
      | nil => rfl
      | cons c more ih =>
          have hc : c ≠ separator := fun heq => hmore (heq ▸ List.mem_cons_self)
          have hrest := ih fun hmem => hmore (List.mem_cons_of_mem c hmem)
          simp only [List.nil_append] at hrest ⊢
          simp [splitChars, hc, hrest]
  | cons c text ih =>
      obtain ⟨pieces, last, hpieces⟩ := ih
      by_cases hc : c = separator
      · refine ⟨[] :: pieces, last, ?_⟩
        intro more hmore
        simp [splitChars, hc, hpieces more hmore]
      · cases pieces with
        | nil =>
            refine ⟨[], c :: last, ?_⟩
            intro more hmore
            simp [splitChars, hc, hpieces more hmore]
        | cons piece pieces =>
            refine ⟨(c :: piece) :: pieces, last, ?_⟩
            intro more hmore
            simp [splitChars, hc, hpieces more hmore]

theorem splitChars_of_not_mem {text : List Char} (h : separator ∉ text) :
    splitChars separator text = [text] := by
  induction text with
  | nil => rfl
  | cons c text ih =>
      have hc : c ≠ separator := fun heq => h (heq ▸ List.mem_cons_self)
      have hrest := ih fun hmem => h (List.mem_cons_of_mem c hmem)
      simp [splitChars, hc, hrest]

theorem splitChars_append {text : List Char} (h : separator ∉ text) (rest : List Char) :
    splitChars separator (text ++ separator :: rest) = text :: splitChars separator rest := by
  induction text with
  | nil => simp [splitChars]
  | cons c text ih =>
      have hc : c ≠ separator := fun heq => h (heq ▸ List.mem_cons_self)
      have hrest := ih fun hmem => h (List.mem_cons_of_mem c hmem)
      simp [splitChars, hc, hrest]

theorem splitChars_joinChars {texts : List (List Char)} (hne : texts ≠ [])
    (h : ∀ text ∈ texts, separator ∉ text) :
    splitChars separator (joinChars [separator] texts) = texts := by
  induction texts with
  | nil => contradiction
  | cons text rest ih =>
      cases rest with
      | nil => exact splitChars_of_not_mem (h text List.mem_cons_self)
      | cons next rest =>
          have hlater := ih (List.cons_ne_nil next rest) fun other hother =>
            h other (List.mem_cons_of_mem text hother)
          rw [joinChars, List.append_assoc, List.singleton_append,
            splitChars_append (h text List.mem_cons_self), hlater]

/-- Texts without separators can be told from how they are joined. -/
theorem join_inj {texts others : List String} (hne : texts ≠ []) (hothersNe : others ≠ [])
    (h : ∀ text ∈ texts, separator ∉ text.toList)
    (hothers : ∀ text ∈ others, separator ∉ text.toList) :
    join (String.singleton separator) texts = join (String.singleton separator) others ↔
      texts = others := by
  constructor
  · intro heq
    have hjoined : joinChars [separator] (texts.map String.toList) =
        joinChars [separator] (others.map String.toList) := by
      simpa [join] using congrArg String.toList heq
    have hpieces := congrArg (splitChars separator) hjoined
    rw [splitChars_joinChars (by simpa using hne) (by simpa using h),
      splitChars_joinChars (by simpa using hothersNe) (by simpa using hothers)] at hpieces
    exact List.map_injective_iff.2 (fun _ _ => String.toList_inj.1) hpieces
  · rintro rfl
    rfl

/-- Each of some texts stands within them when they are joined. -/
theorem infix_join {text : String} {texts : List String} (h : text ∈ texts) (separator : String) :
    text.toList <:+: (join separator texts).toList := by
  rw [join, String.toList_ofList]
  induction texts with
  | nil => exact absurd h List.not_mem_nil
  | cons first rest ih =>
      cases rest with
      | nil =>
          obtain rfl := List.mem_singleton.1 h
          exact List.infix_refl _
      | cons next rest =>
          rw [List.map_cons, List.map_cons, joinChars]
          rcases List.mem_cons.1 h with rfl | hlater
          · rw [List.append_assoc]
            exact (List.prefix_append _ _).isInfix
          · exact (ih hlater).trans (List.suffix_append _ _).isInfix

end Rulebound.Text
