import Rulebound.Rule.Book

/-!
# What a rule book forbids

An action is denied exactly when some prohibition in the book covers it, and the reason is the text
of the first one that does. Rules of other kinds have no say.
-/

namespace Rulebound

/-- Whether a rule forbids an action: only a prohibition does, and only what its scope covers. -/
def Rule.Forbids (rule : Rule) (action : Action) : Prop :=
  rule.kind = .prohibition ∧ rule.covers action = true

instance (rule : Rule) (action : Action) : Decidable (rule.Forbids action) :=
  inferInstanceAs (Decidable (_ ∧ _))

namespace RuleBook

theorem judgeBy_eq_find (action : Action) (rules : List Rule) :
    judgeBy action rules =
      match rules.find? fun rule => decide (rule.Forbids action) with
      | some rule => .denied rule.text
      | none => .permitted := by
  induction rules with
  | nil => rfl
  | cons rule rest ih =>
      cases rule with
      | prohibition scope text =>
          by_cases h : scope.covers action = true
          · simp [judgeBy, h, Rule.Forbids, Rule.kind, Rule.covers, Rule.scope, Rule.text]
          · simp [judgeBy, h, Rule.Forbids, Rule.kind, Rule.covers, Rule.scope, ih]
      | requirement scope text => simp [judgeBy, Rule.Forbids, Rule.kind, ih]
      | restriction scope text => simp [judgeBy, Rule.Forbids, Rule.kind, ih]
      | guideline text => simp [judgeBy, Rule.Forbids, Rule.kind, ih]

theorem judge_eq_permitted_iff (book : RuleBook) (action : Action) :
    book.judge action = .permitted ↔ ∀ rule ∈ book.rules, ¬ rule.Forbids action := by
  rw [judge, judgeBy_eq_find]
  cases h : book.rules.find? fun rule => decide (rule.Forbids action) with
  | none => simpa using h
  | some rule =>
      have hforbids : rule.Forbids action := by simpa using List.find?_some h
      have hmem : rule ∈ book.rules := List.mem_of_find?_eq_some h
      simp only [reduceCtorEq, false_iff]
      exact fun hnone => hnone rule hmem hforbids

/-- The reason of a denial is the text of the first prohibition that covers the action. -/
theorem judge_eq_denied_iff (book : RuleBook) (action : Action) (reason : String) :
    book.judge action = .denied reason ↔
      ∃ earlier rule later, book.rules = earlier ++ rule :: later ∧ rule.Forbids action ∧
        rule.text = reason ∧ ∀ other ∈ earlier, ¬ other.Forbids action := by
  rw [judge, judgeBy_eq_find]
  constructor
  · intro h
    cases hfind : book.rules.find? fun rule => decide (rule.Forbids action) with
    | none => simp [hfind] at h
    | some rule =>
        simp only [hfind, Permission.denied.injEq] at h
        obtain ⟨hforbids, earlier, later, hrules, hearlier⟩ :=
          List.find?_eq_some_iff_append.1 hfind
        exact ⟨earlier, rule, later, hrules, by simpa using hforbids, h, by simpa using hearlier⟩
  · rintro ⟨earlier, rule, later, hrules, hforbids, htext, hearlier⟩
    have hfind : (book.rules.find? fun rule => decide (rule.Forbids action)) = some rule :=
      List.find?_eq_some_iff_append.2
        ⟨by simpa using hforbids, earlier, later, hrules, by simpa using hearlier⟩
    simp [hfind, htext]

end RuleBook

end Rulebound
