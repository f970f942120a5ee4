import Rulebound.Proofs.Action.Line
import Rulebound.Proofs.Text.Lower
import Rulebound.Proofs.Text.Split

/-!
# The grammar of replies

A reply proposes an action exactly if a marker, blanks and a character of a word stand one after
another somewhere in it, and what is read is what the first such place says. The parts of an action
that was read are therefore never empty or broken.
-/

namespace Rulebound.Action

/-! ## What a proposal says -/

/-- An action whose verb is not empty, whose text is a piece of one line with no blanks around it,
and whose words, if it has any, are words. -/
structure IsNeat (action : Action) : Prop where
  verb_ne_empty : action.verb ≠ ""
  newline_not_mem : '\n' ∉ action.raw.toList
  isTight : Text.IsTight action.raw.toList
  isSolid : ∀ words ∈ action.params, words ≠ [] ∧ ∀ word ∈ words, Text.IsSolid word.toList

/-- What a proposal says: its verb in lower case, the text that follows the verb and the blanks
after it, up to the end of the line and without the blanks around it, and the words of that text
unless it is empty. -/
structure Proposal.Says (p : Proposal) (action : Action) : Prop where
  verb_eq : action.verb = Text.lower (String.ofList p.verb)
  raw_eq : ∃ gap line rest, p.after = gap ++ (line ++ rest) ∧
    (∀ c ∈ gap, Text.isBlank c = true) ∧ (∀ c ∈ (line ++ rest).head?, Text.isBlank c = false) ∧
    '\n' ∉ line ∧ EndsLine rest ∧ Text.Strips line action.raw.toList
  params_none : action.raw = "" → action.params = none
  params_some : action.raw ≠ "" →
    ∃ words, Text.Splits action.raw.toList words ∧ action.params = some (words.map String.ofList)

namespace Proposal

variable {p : Proposal} {action : Action}

theorem Says.isNeat (h : p.Says action) : action.IsNeat := by
  obtain ⟨gap, line, rest, -, -, -, hline, -, htight, front, back, hraw, -⟩ := h.raw_eq
  refine ⟨?_, ?_, htight, ?_⟩
  · have hverb : String.ofList p.verb ≠ "" := by simpa using p.verb_ne_nil
    exact h.verb_eq ▸ Text.lower_ne_empty hverb
  · intro hnewline
    exact hline (by simp [hraw, hnewline])
  · intro words hwords
    have hfilled : action.raw ≠ "" := by
      intro hempty
      simp [h.params_none hempty] at hwords
    obtain ⟨pieces, hsplits, hparams⟩ := h.params_some hfilled
    obtain rfl : pieces.map String.ofList = words := by simpa [hparams] using hwords
    refine ⟨?_, by simpa using hsplits.solid⟩
    intro hnone
    have hpieces : pieces = [] := by simpa using hnone
    have hraw : action.raw.toList ≠ [] := fun hnil => hfilled (String.toList_eq_nil_iff.1 hnil)
    exact htight.words_ne_nil hraw ((Text.splits_iff.1 hsplits).trans hpieces)

/-- What is made of the parts of a proposal is what it says. -/
theorem says_action (p : Proposal) : p.Says p.action := by
  let line := (Text.trimFront p.after).takeWhile (· != '\n')
  let rest := (Text.trimFront p.after).dropWhile (· != '\n')
  have hsplit : line ++ rest = Text.trimFront p.after := List.takeWhile_append_dropWhile
  have hraw : p.action.raw.toList = Text.trim line := by simp [Proposal.action, ofParts, line]
  have hparams : p.action.params =
      if (Text.words p.action.raw.toList).isEmpty then none
      else some ((Text.words p.action.raw.toList).map String.ofList) := by
    simp [Proposal.action, ofParts]
  have hverb : p.action.verb = Text.lower (String.ofList p.verb) := by
    simp [Proposal.action, ofParts, Text.lower]
  refine ⟨hverb, ⟨p.after.takeWhile Text.isBlank, line, rest, ?_, ?_, ?_, ?_, ?_, ?_⟩, ?_, ?_⟩
  · rw [hsplit, Text.trimFront, List.takeWhile_append_dropWhile]
  · exact fun c hc => List.mem_takeWhile_imp hc
  · exact hsplit ▸ Text.head_trimFront p.after
  · intro hnewline
    simpa using List.mem_takeWhile_imp hnewline
  · intro c hc
    have hhead := List.head?_dropWhile_not (· != '\n') (Text.trimFront p.after)
    rw [hc] at hhead
    simpa using hhead
  · exact Text.strips_iff.2 hraw.symm
  · intro hempty
    rw [hparams, hempty]
    rfl
  · intro hfilled
    have hne : p.action.raw.toList ≠ [] := fun hnil => hfilled (String.toList_eq_nil_iff.1 hnil)
    have htight : Text.IsTight p.action.raw.toList := hraw ▸ Text.isTight_trim line
    have hwords := htight.words_ne_nil hne
    exact ⟨_, Text.splits_iff.2 rfl, by simp [hparams, hwords]⟩

theorem Says.eq_action (h : p.Says action) : action = p.action := by
  obtain ⟨gap, line, rest, hafter, hgap, hhead, hline, hrest, hstrips⟩ := h.raw_eq
  have htrim : Text.trimFront p.after = line ++ rest := by
    rw [hafter, Text.trimFront_of_blank hgap, Text.trimFront_of_head hhead]
  have hraw : action.raw = p.action.raw := by
    rw [← String.ofList_toList (s := action.raw), ← Text.strips_iff.1 hstrips]
    simp [Proposal.action, ofParts, htrim, takeWhile_line hline hrest]
  have hparams : action.params = p.action.params := by
    have hown := p.says_action
    by_cases hempty : action.raw = ""
    · rw [h.params_none hempty, hown.params_none (hraw ▸ hempty)]
    · obtain ⟨words, hwords, hsome⟩ := h.params_some hempty
      obtain ⟨others, hothers, hother⟩ := hown.params_some (hraw ▸ hempty)
      rw [hraw] at hwords
      have hsame : words = others :=
        (Text.splits_iff.1 hwords).symm.trans (Text.splits_iff.1 hothers)
      rw [hsome, hother, hsame]
  have hverb : action.verb = p.action.verb := h.verb_eq.trans p.says_action.verb_eq.symm
  calc action = ⟨action.verb, action.params, action.raw⟩ := rfl
    _ = ⟨p.action.verb, p.action.params, p.action.raw⟩ := by rw [hverb, hparams, hraw]
    _ = p.action := rfl

theorem says_iff : p.Says action ↔ p.action = action :=
  ⟨fun h => h.eq_action.symm, fun h => h ▸ p.says_action⟩

end Proposal

/-! ## The first place that proposes -/

section First

variable {text : List Char} {action : Action}

theorem not_opens_nil : ¬ Opens [] :=
  atFront?_eq_none.1 rfl

theorem find?_eq_none : find? text = none ↔ ∀ place, ¬ Opens (text.drop place) := by
  induction text with
  | nil => simp [find?, not_opens_nil]
  | cons c rest ih =>
      rw [find?]
      cases hfront : atFront? (c :: rest) with
      | some first =>
          simp only [reduceCtorEq, false_iff]
          exact fun hnone => hnone 0 (opens_of_atFront? hfront)
      | none =>
          have hhere : ¬ Opens (c :: rest) := atFront?_eq_none.1 hfront
          refine ih.trans ⟨?_, fun hnone place => hnone (place + 1)⟩
          rintro hlater (_ | place)
          · exact hhere
          · exact hlater place

theorem find?_eq_some :
    find? text = some action ↔
      ∃ place, atFront? (text.drop place) = some action ∧
        ∀ earlier < place, ¬ Opens (text.drop earlier) := by
  induction text with
  | nil => simp [find?, atFront?_eq_none.2 not_opens_nil]
  | cons c rest ih =>
      rw [find?]
      cases hfront : atFront? (c :: rest) with
      | some first =>
          constructor
          · intro h
            exact ⟨0, hfront.trans h, by simp⟩
          · rintro ⟨_ | place, hplace, hearlier⟩
            · exact hfront.symm.trans hplace
            · exact absurd (opens_of_atFront? hfront) (hearlier 0 place.succ_pos)
      | none =>
          have hhere : ¬ Opens (c :: rest) := atFront?_eq_none.1 hfront
          refine ih.trans ⟨?_, ?_⟩
          · rintro ⟨place, hplace, hearlier⟩
            refine ⟨place + 1, hplace, ?_⟩
            rintro (_ | earlier) hlt
            · exact hhere
            · exact hearlier earlier (Nat.lt_of_succ_lt_succ hlt)
          · rintro ⟨_ | place, hplace, hearlier⟩
            · exact absurd (hplace.symm.trans hfront) (Option.some_ne_none action)
            · exact ⟨place, hplace, fun earlier hlt =>
                hearlier (earlier + 1) (Nat.succ_lt_succ hlt)⟩

end First

/-- Replies are read by their grammar. Nothing is read exactly if no place in a reply proposes
anything, and an action exactly if it is what the first place that does says; it is neat then. -/
theorem reads_grammar (reply : String) :
    (read? reply = none ↔ ¬ ∃ place, Opens (reply.toList.drop place)) ∧
      (∀ action, read? reply = some action ↔
        ∃ (place : ℕ) (p : Proposal), reply.toList.drop place = p.text ∧
          (∀ earlier < place, ¬ Opens (reply.toList.drop earlier)) ∧ p.Says action) ∧
      ∀ action, read? reply = some action → action.IsNeat := by
  have hsome : ∀ action, read? reply = some action ↔
      ∃ (place : ℕ) (p : Proposal), reply.toList.drop place = p.text ∧
        (∀ earlier < place, ¬ Opens (reply.toList.drop earlier)) ∧ p.Says action := by
    intro action
    refine find?_eq_some.trans (exists_congr fun place => ?_)
    rw [atFront?_eq_some]
    constructor
    · rintro ⟨⟨p, hp, haction⟩, hearlier⟩
      exact ⟨p, hp.symm, hearlier, Proposal.says_iff.2 haction⟩
    · rintro ⟨p, hp, hearlier, hsays⟩
      exact ⟨⟨p, hp.symm, Proposal.says_iff.1 hsays⟩, hearlier⟩
  refine ⟨find?_eq_none.trans not_exists.symm, hsome, ?_⟩
  intro action hread
  obtain ⟨_, p, -, -, hsays⟩ := (hsome action).1 hread
  exact hsays.isNeat

/-- A marker without a verb is passed over; the next one is written otherwise, and its verb stands
lines below it. -/
theorem mine_read_below_marker :
    let reply := "ACTION: !\nactıon:\u2003\n Mine \u00a0oak log\t\nACTION: eat"
    let action : Action := ⟨"mine", some ["oak", "log"], "oak log"⟩
    read? reply = some action ∧
      (∃ (place : ℕ) (p : Proposal), reply.toList.drop place = p.text ∧
        (∀ earlier < place, ¬ Opens (reply.toList.drop earlier)) ∧ p.Says action) ∧
      action.IsNeat := by
  intro reply action
  have hread : read? reply = some action := by decide +kernel
  obtain ⟨-, hsome, hneat⟩ := reads_grammar reply
  exact ⟨hread, (hsome action).1 hread, hneat action hread⟩

end Rulebound.Action
