import Rulebound.Proofs.Action.Printed
import Rulebound.Proofs.Permission
import Rulebound.Proofs.Scope
import Rulebound.Proofs.Text.Pieces

/-!
# Prohibitions that take effect

A prohibition of a verb takes effect if it denies some action of that verb that a reply can propose.
The action that names the target itself is one, and without a target any action is. Only where the
target is players it must be a prohibition of attacks: what is done to players otherwise is looked
at by no rule.
-/

namespace Rulebound

/-! ## Verbs and targets as words -/

namespace Rule

theorem verbs_isVerb : ∀ verb ∈ verbs, Action.IsVerb verb := by
  decide

theorem targets_word :
    ∀ target ∈ targets, Text.IsSolid target.toList ∧ Text.lower target = target := by
  decide

theorem scopeOf_action_mem {text verb : String} (h : (scopeOf text).action = some verb) :
    verb ∈ verbs :=
  List.mem_of_find?_eq_some h

end Rule

namespace Action

variable {verb word : String}

theorem read?_bare (hverb : IsVerb verb) :
    read? ("ACTION: " ++ verb ++ " ") = some ⟨verb, none, ""⟩ := by
  have hbefore : ¬ HasMarker "".toList := by decide
  have hread := read?_spaced hbefore hverb ""
  have hnothing := ofParts_blank verb.toList Text.isBlank_of_mem_space []
  have hlower : String.ofList (Text.lowerChars verb.toList) = verb := hverb.lower_eq
  rw [List.append_nil, ofParts_nil, hlower] at hnothing
  rwa [String.empty_append, String.append_empty, String.toList_empty, hnothing] at hread

theorem read?_word (hverb : IsVerb verb) (hword : Text.IsSolid word.toList) :
    read? ("ACTION: " ++ verb ++ " " ++ word) = some ⟨verb, some [word], word⟩ := by
  have hbefore : ¬ HasMarker "".toList := by decide
  have hread := read?_spaced hbefore hverb word
  have hwords : ∀ other ∈ [word], Text.IsSolid other.toList := by simpa using hword
  have hends : EndsLine [] := nofun
  have hjoined : Text.join " " [word] = word := by simp [Text.join, Text.joinChars]
  have hparts := ofParts_joined hwords (List.cons_ne_nil _ _) verb.toList hends
  have hlower : String.ofList (Text.lowerChars verb.toList) = verb := hverb.lower_eq
  rw [hjoined, List.append_nil, hlower] at hparts
  rwa [String.empty_append, hparts] at hread

end Action

/-! ## What a scope covers -/

namespace Scope

variable {scope : Scope} {verb target raw : String}

/-- A scope with a target covers the action that names the target itself, unless it is about
players under a verb other than attack. -/
theorem covers_own_target (haction : scope.action = some verb)
    (htarget : scope.target = some target) (hmem : target ∈ Rule.targets)
    (hplayers : target = "players" → verb = "attack") :
    scope.covers ⟨verb, some [target], raw⟩ = true := by
  have hne : target ≠ "" := (Rule.targets_unbroken target hmem).1
  have hwords : Text.lower (Text.join " " [target]) = target := by
    have hjoined : Text.join " " [target] = target := by simp [Text.join, Text.joinChars]
    rw [hjoined, (Rule.targets_word target hmem).2]
  rw [covers_of_target (.inr haction) htarget hne rfl]
  simp only [Action.words, Option.getD_some, hwords]
  by_cases hsame : target = "players"
  · have hplayer : Text.contains "players" "player" = true := by decide
    simp [hsame, hplayers hsame, hplayer]
  · simp [hsame]

theorem not_covers_players (haction : scope.action = some verb) (hne : verb ≠ "")
    (htarget : scope.target = some "players") (hverb : verb ≠ "attack") (action : Action) :
    scope.covers action = false := by
  have hplayers : nonEmpty? (some "players") = some "players" := nonEmpty?_of_ne (by decide)
  unfold covers
  rw [haction, htarget, nonEmpty?_of_ne hne, hplayers]
  by_cases hsame : verb = action.verb
  · have hother : action.verb ≠ "attack" := hsame ▸ hverb
    simp [hother]
  · simp [hsame]

end Scope

/-! ## Books of one prohibition -/

namespace RuleBook

variable {text : String} {scope : Scope} {verb : String} {action : Action}

theorem judge_sole (hrule : Rule.compile text = .prohibition scope text) :
    (ofTexts [text]).judge action = if scope.covers action then .denied text else .permitted := by
  simp [ofTexts, judge, hrule, judgeBy]

/-- A prohibition of a verb denies an action of that verb that a reply can propose. If it is about
players, that holds for attacks alone, and a prohibition of anything else denies nothing at all. -/
theorem takes_effect (hrule : Rule.compile text = .prohibition scope text)
    (hverb : scope.action = some verb) :
    ((scope.target = some "players" → verb = "attack") →
      ∃ reply action, Action.read? reply = some action ∧ action.verb = verb ∧
        (ofTexts [text]).judge action = .denied text) ∧
    (scope.target = some "players" → verb ≠ "attack" →
      ∀ action, (ofTexts [text]).judge action = .permitted) := by
  have haction : (Rule.scopeOf text).action = some verb := Rule.eq_scopeOf hrule ▸ hverb
  have hisVerb : Action.IsVerb verb := Rule.verbs_isVerb verb (Rule.scopeOf_action_mem haction)
  constructor
  · intro hplayers
    cases htarget : scope.target with
    | none =>
        have hcovers : scope.covers ⟨verb, none, ""⟩ = true :=
          Scope.covers_of_no_target hverb htarget
        exact ⟨_, _, Action.read?_bare hisVerb, rfl, by rw [judge_sole hrule, hcovers]; rfl⟩
    | some target =>
        have hscope : (Rule.scopeOf text).target = some target :=
          Rule.eq_scopeOf hrule ▸ htarget
        have htargets : target ∈ Rule.targets := Rule.scopeOf_target_mem hscope
        have hcovers : scope.covers ⟨verb, some [target], target⟩ = true :=
          Scope.covers_own_target hverb htarget htargets fun hsame =>
            hplayers (htarget.trans (congrArg some hsame))
        exact ⟨_, _, Action.read?_word hisVerb (Rule.targets_word target htargets).1, rfl, by
          rw [judge_sole hrule, hcovers]; rfl⟩
  · intro htarget hother action
    rw [judge_sole hrule, Scope.not_covers_players hverb hisVerb.ne_empty htarget hother]
    rfl

theorem attack_prohibition_takes_effect :
    Rule.compile "Cannot attack players" =
        .prohibition ⟨some "attack", some "players"⟩ "Cannot attack players" ∧
      ∃ reply action, Action.read? reply = some action ∧ action.verb = "attack" ∧
        (ofTexts ["Cannot attack players"]).judge action = .denied "Cannot attack players" := by
  have hrule : Rule.compile "Cannot attack players" =
      .prohibition ⟨some "attack", some "players"⟩ "Cannot attack players" := by
    decide
  exact ⟨hrule, (takes_effect hrule rfl).1 fun _ => rfl⟩

/-- Whatever is said to players, a prohibition of it is not looked at. -/
theorem chat_prohibition_without_effect :
    Rule.compile "Cannot chat with players" =
        .prohibition ⟨some "chat", some "players"⟩ "Cannot chat with players" ∧
      ¬ ∃ (action : Action) (reason : String), action.verb = "chat" ∧
        (ofTexts ["Cannot chat with players"]).judge action = .denied reason := by
  have hrule : Rule.compile "Cannot chat with players" =
      .prohibition ⟨some "chat", some "players"⟩ "Cannot chat with players" := by
    decide
  refine ⟨hrule, ?_⟩
  rintro ⟨action, reason, -, hdenied⟩
  have hcovers : Scope.covers ⟨some "chat", some "players"⟩ action = false :=
    Scope.not_covers_players rfl (by decide) rfl (by decide) action
  rw [judge_sole hrule, hcovers] at hdenied
  exact nomatch hdenied

end RuleBook

end Rulebound
