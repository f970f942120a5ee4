import Rulebound.Proofs.Prohibition
import Rulebound.Proofs.Text.Separator

/-!
# What a scope leaves alone

The target of a rule is looked for in the words of an action, while a body is given the name that
these words make. The targets that rules can have hold no separator, so both find the same: a name
that a body is given in spite of a prohibition does not hold the target.
-/

namespace Rulebound

/-! ## Scopes of compiled rules -/

namespace Rule

/-- Everything that a compiled rule can have as its target. -/
def targets : List String :=
  categories.map (·.1) ++ materials

theorem firstMaterial?_mem {within : Bool} {text : List Char} {material : String}
    (h : firstMaterial? within text = some material) : material ∈ materials := by
  induction text generalizing within with
  | nil => exact nomatch h
  | cons c rest ih =>
      unfold firstMaterial? at h
      cases within with
      | true => exact ih h
      | false =>
          cases hfront : materialAtFront? (c :: rest) with
          | none =>
              simp only [hfront, Bool.false_eq_true, ↓reduceIte] at h
              exact ih h
          | some found =>
              simp only [hfront, Bool.false_eq_true, ↓reduceIte, Option.some.injEq] at h
              subst h
              exact List.mem_of_find?_eq_some hfront

theorem category?_mem {text category : String} (h : category? text = some category) :
    category ∈ categories.map (·.1) := by
  obtain ⟨entry, hentry, rfl⟩ := Option.map_eq_some_iff.1 h
  exact List.mem_map_of_mem (List.mem_of_find?_eq_some hentry)

theorem scopeOf_target_mem {text target : String} (h : (scopeOf text).target = some target) :
    target ∈ targets := by
  simp only [scopeOf] at h
  rcases Option.or_eq_some_iff.1 h with hmaterial | ⟨-, hcategory⟩
  · exact List.mem_append_right _ (firstMaterial?_mem hmaterial)
  · exact List.mem_append_left _ (category?_mem hcategory)

/-- No target is empty, and none holds a character that could separate words. -/
theorem targets_unbroken : ∀ target ∈ targets, target ≠ "" ∧ Text.IsUnbroken target := by
  decide

theorem eq_scopeOf {text other : String} {scope : Scope}
    (h : compile text = .prohibition scope other) : scope = scopeOf text := by
  unfold compile ofKind at h
  cases hkind : classify text with
  | prohibition =>
      simp only [hkind, prohibition.injEq] at h
      exact h.1.symm
  | requirement => simp [hkind] at h
  | restriction => simp [hkind] at h
  | guideline => simp [hkind] at h

theorem target_unbroken {text other target : String} {scope : Scope}
    (h : compile text = .prohibition scope other) (htarget : scope.target = some target) :
    target ≠ "" ∧ Text.IsUnbroken target := by
  rw [eq_scopeOf h] at htarget
  exact targets_unbroken target (scopeOf_target_mem htarget)

end Rule

/-! ## Words and the name they make -/

namespace Action

theorem joinedName?_eq_some {action : Action} {name : String} (h : action.joinedName? = some name) :
    action.words.isEmpty = false ∧ name = Text.lower (Text.join "_" action.words) := by
  unfold joinedName? at h
  cases hwords : action.words.isEmpty with
  | true => simp [hwords] at h
  | false => exact ⟨rfl, by simpa [hwords] using h.symm⟩

theorem contains_joinedName? {action : Action} {name part : String}
    (h : action.joinedName? = some name) (hpart : Text.IsUnbroken part) :
    Text.contains name part = Text.contains (Text.lower (Text.join " " action.words)) part := by
  obtain ⟨-, rfl⟩ := joinedName?_eq_some h
  exact Text.contains_joined hpart action.words

end Action

/-! ## Names that are left alone -/

namespace Scope

variable {scope : Scope} {action : Action} {name target : String}

/-- What a prohibition of a verb leaves to be done with a name. Without a target it leaves nothing.
A target must not stand within the name, and where the target is players, only a name of a zombie
that is no name of a player may be attacked. -/
def Spares (scope : Scope) (verb name : String) : Prop :=
  ∃ target, scope.target = some target ∧
    (target ≠ "players" → Text.contains name target = false) ∧
    (target = "players" → verb = "attack" →
      Text.contains name "zombie" = true ∧ Text.contains name "player" = false)

/-- Whether a name is one that a scope is about. Without a target, it is about all of them. -/
def names (scope : Scope) (name : String) : Bool :=
  scope.target.all (Text.contains name)

theorem Spares.names_eq_false {verb : String} (h : scope.Spares verb name)
    (hplayers : scope.target ≠ some "players") : scope.names name = false := by
  obtain ⟨target, htarget, hother, -⟩ := h
  have hne : target ≠ "players" := fun hsame => hplayers (hsame ▸ htarget)
  simp [names, htarget, hother hne]

theorem nonEmpty?_of_ne (h : name ≠ "") : nonEmpty? (some name) = some name := by
  simp [nonEmpty?, Option.filter, h]

theorem covers_of_no_target (haction : scope.action = some action.verb)
    (htarget : scope.target = none) : scope.covers action = true := by
  simp [covers, haction, htarget, nonEmpty?]

/-- With a target, a scope of the verb of an action covers it by the words alone. -/
theorem covers_of_target (haction : scope.action = none ∨ scope.action = some action.verb)
    (htarget : scope.target = some target) (hne : target ≠ "")
    (hwords : action.words.isEmpty = false) :
    scope.covers action =
      let words := Text.lower (Text.join " " action.words)
      if target = "players" then
        action.verb == "attack" && (Text.contains words "player" || !Text.contains words "zombie")
      else Text.contains words target := by
  have htarget? : nonEmpty? scope.target = some target := by
    rw [htarget, nonEmpty?_of_ne hne]
  unfold covers
  rw [htarget?, hwords]
  rcases haction with hall | hsame
  · simp [hall, nonEmpty?]
  · simp [hsame]

theorem not_covers_target (haction : scope.action = none ∨ scope.action = some action.verb)
    (htarget : scope.target = some target) (hne : target ≠ "") (hunbroken : Text.IsUnbroken target)
    (hname : action.joinedName? = some name) (h : ¬ scope.covers action = true) :
    (target ≠ "players" → Text.contains name target = false) ∧
      (target = "players" → action.verb = "attack" →
        Text.contains name "zombie" = true ∧ Text.contains name "player" = false) := by
  have hwords := (Action.joinedName?_eq_some hname).1
  rw [covers_of_target haction htarget hne hwords] at h
  constructor
  · intro hother
    rw [Action.contains_joinedName? hname hunbroken]
    simpa [hother] using h
  · intro hplayers hattack
    have hzombie : Text.IsUnbroken "zombie" := by decide
    have hplayer : Text.IsUnbroken "player" := by decide
    rw [Action.contains_joinedName? hname hzombie, Action.contains_joinedName? hname hplayer]
    simpa [hplayers, hattack, and_comm] using h

end Scope

namespace Rule

variable {text other : String} {scope : Scope} {action : Action} {name : String}

/-- An action that a prohibition of its verb does not forbid has a name that is left alone. -/
theorem spares_of_not_forbids (hrule : compile text = .prohibition scope other)
    (hverb : scope.action = some action.verb) (hname : action.joinedName? = some name)
    (h : ¬ (compile text).Forbids action) : scope.Spares action.verb name := by
  have hcovers : ¬ scope.covers action = true := fun hcovers =>
    h (hrule ▸ ⟨rfl, hcovers⟩)
  cases htarget : scope.target with
  | none => exact absurd (Scope.covers_of_no_target hverb htarget) hcovers
  | some target =>
      obtain ⟨hne, hunbroken⟩ := target_unbroken hrule htarget
      exact ⟨target, htarget,
        Scope.not_covers_target (.inr hverb) htarget hne hunbroken hname hcovers⟩

end Rule

end Rulebound
