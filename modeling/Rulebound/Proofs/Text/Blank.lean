import Rulebound.Action
import Rulebound.Text.Character

/-!
# Texts without blanks around them

Trimming a text once is enough. The words of an action are kept as they were written, but trimmed:
whoever trims them again changes nothing.
-/

namespace Rulebound

namespace Text

theorem trimFront_cons_of_not_isBlank {c : Char} (h : isBlank c = false) (rest : List Char) :
    trimFront (c :: rest) = c :: rest := by
  simp [trimFront, h]

theorem trimFront_eq_nil_or (text : List Char) :
    trimFront text = [] ∨ ∃ c rest, isBlank c = false ∧ trimFront text = c :: rest := by
  induction text with
  | nil => exact .inl rfl
  | cons c rest ih =>
      by_cases hblank : isBlank c = true
      · simpa [trimFront, hblank] using ih
      · exact .inr ⟨c, rest, by simpa using hblank, by simp [trimFront, hblank]⟩

theorem trimBack_cons_of_cons {c d : Char} {rest kept : List Char}
    (h : trimBack rest = d :: kept) : trimBack (c :: rest) = c :: d :: kept := by
  simp [trimBack, h]

@[simp] theorem trimBack_trimBack (text : List Char) :
    trimBack (trimBack text) = trimBack text := by
  induction text with
  | nil => rfl
  | cons c rest ih =>
      cases hrest : trimBack rest with
      | nil =>
          by_cases hblank : isBlank c = true
          · simp [trimBack, hrest, hblank]
          · simp [trimBack, hrest, hblank]
      | cons d kept =>
          rw [hrest] at ih
          rw [trimBack_cons_of_cons hrest, trimBack_cons_of_cons ih]

theorem exists_trimBack_cons {c : Char} (h : isBlank c = false) (rest : List Char) :
    ∃ kept, trimBack (c :: rest) = c :: kept := by
  cases hrest : trimBack rest with
  | nil => exact ⟨[], by simp [trimBack, hrest, h]⟩
  | cons d kept => exact ⟨d :: kept, trimBack_cons_of_cons hrest⟩

@[simp] theorem trim_trim (text : List Char) : trim (trim text) = trim text := by
  have hfront : trimFront (trimBack (trimFront text)) = trimBack (trimFront text) := by
    rcases trimFront_eq_nil_or text with hnil | ⟨c, rest, hc, hcons⟩
    · rw [hnil]
      rfl
    · obtain ⟨kept, hkept⟩ := exists_trimBack_cons hc rest
      rw [hcons, hkept, trimFront_cons_of_not_isBlank hc]
  unfold trim
  rw [hfront, trimBack_trimBack]

theorem trim_eq_nil {text : List Char} (h : ∀ c ∈ text, isBlank c = true) : trim text = [] := by
  have hfront : trimFront text = [] := by
    induction text with
    | nil => rfl
    | cons c rest ih =>
        obtain ⟨hc, hrest⟩ := List.forall_mem_cons.1 h
        rw [trimFront, List.dropWhile_cons_of_pos hc]
        exact ih hrest
  rw [trim, hfront, trimBack]

end Text

namespace Action

variable {action : Action}

/-- Whether the words of an action, as they were written, have no blanks around them. -/
def IsTrimmed (action : Action) : Prop :=
  Text.trim action.raw.toList = action.raw.toList

theorem isTrimmed_ofParts (verb after : List Char) : (ofParts verb after).IsTrimmed := by
  simp [IsTrimmed, ofParts]

theorem isTrimmed_atFront? {text : List Char} (h : atFront? text = some action) :
    action.IsTrimmed := by
  unfold atFront? at h
  cases hmarker : afterMarker? marker text with
  | none => simp [hmarker] at h
  | some after =>
      simp only [hmarker, Option.bind_eq_bind, Option.bind_some] at h
      split at h
      · exact nomatch h
      · obtain rfl := Option.some.inj h
        exact isTrimmed_ofParts _ _

theorem isTrimmed_find? {text : List Char} (h : find? text = some action) : action.IsTrimmed := by
  induction text with
  | nil => exact nomatch h
  | cons c rest ih =>
      unfold find? at h
      cases hfront : atFront? (c :: rest) with
      | none =>
          rw [hfront] at h
          exact ih h
      | some first =>
          rw [hfront] at h
          obtain rfl := Option.some.inj h
          exact isTrimmed_atFront? hfront

theorem isTrimmed_read? {reply : String} (h : read? reply = some action) : action.IsTrimmed :=
  isTrimmed_find? h

end Action

end Rulebound
