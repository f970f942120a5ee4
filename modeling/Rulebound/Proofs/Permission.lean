import Rulebound.Proofs.Course
import Rulebound.Proofs.Prohibition
import Rulebound.Proofs.Record
import Rulebound.Rule.Book

/-!
# Books and the texts they come from

A book that is changed rule by rule is the book of the texts that are left: nothing of a rule
outlives its text. The first text that forbids an action is the reason of its denial, so a further
rule can only forbid more, a rule that is taken away can only forbid less, and what states no
prohibition has no say at all.
-/

namespace Rulebound

/-! ## Changing texts -/

namespace RuleEdit

def applyToTexts (edit : RuleEdit) (texts : List String) : List String :=
  match edit with
  | add text => texts ++ [text]
  | remove text => texts.filter (· != text)

def textsAfter (texts : List String) (edits : List RuleEdit) : List String :=
  edits.foldl (fun texts edit => edit.applyToTexts texts) texts

end RuleEdit

/-- A verdict that passes its check can be given. -/
theorem Verdict.decode_toJson {verdict : Verdict} (h : verdict.isReasoned = true) :
    decode verdict.toJson = .good verdict := by
  obtain ⟨permitted, reason⟩ := verdict
  let fields : Json.Fields := [("permitted", .bool permitted), ("reason", .ofText? reason)]
  have hfields : Decode.only ["permitted", "reason"] fields
      (Verdict.mk <$> Decode.required fields "permitted" Decode.truth
        <*> Decode.withDefault fields "reason" (Decode.optional Decode.text) none) =
          .good ⟨permitted, reason⟩ := by
    refine Decode.only_good (by rfl) (Checked.seq_good (Checked.map_good ?_) ?_)
    · exact Decode.required_good rfl rfl
    · exact Decode.withDefault_good rfl (Decode.optional_text reason)
  have hdecode : decode (Verdict.mk permitted reason).toJson =
      (Decode.only ["permitted", "reason"] fields
        (Verdict.mk <$> Decode.required fields "permitted" Decode.truth
          <*> Decode.withDefault fields "reason" (Decode.optional Decode.text) none)).andThen
        fun verdict => if verdict.isReasoned then .good verdict else .fail .valueRefused := rfl
  rw [hdecode, hfields]
  exact if_pos h

/-! ## Rules and their texts -/

namespace Rule

@[simp] theorem text_compile (text : String) : (compile text).text = text := by
  unfold compile
  cases classify text <;> rfl

@[simp] theorem kind_compile (text : String) : (compile text).kind = classify text := by
  unfold compile
  cases classify text <;> rfl

/-- A text that states a prohibition is not empty: it holds the phrase that announces it. -/
theorem ne_empty_of_prohibition {text : String} (h : classify text = .prohibition) :
    text ≠ "" := by
  rintro rfl
  exact absurd h (by decide)

end Rule

namespace RuleBook

variable {texts : List String} {action : Action} {text reason : String}

@[simp] theorem rules_ofTexts (texts : List String) :
    (ofTexts texts).rules = texts.map Rule.compile := rfl

@[simp] theorem texts_ofTexts (texts : List String) : (ofTexts texts).texts = texts := by
  simp [RuleBook.texts, Function.comp_def]

@[simp] theorem add_ofTexts (texts : List String) (text : String) :
    (ofTexts texts).add text = ofTexts (texts ++ [text]) := by
  simp [add, ofTexts]

@[simp] theorem remove_ofTexts (texts : List String) (text : String) :
    (ofTexts texts).remove text = ofTexts (texts.filter (· != text)) := by
  simp [remove, ofTexts, List.filter_map, Function.comp_def]

@[simp] theorem countText_ofTexts (texts : List String) (text : String) :
    (ofTexts texts).countText text = texts.count text := by
  simp [countText, List.countP_map, Function.comp_def, List.count]

theorem length_remove (book : RuleBook) (text : String) :
    (book.remove text).rules.length + book.countText text = book.rules.length := by
  have hsplit := List.length_eq_countP_add_countP (fun rule : Rule => rule.text == text)
    (l := book.rules)
  have hkept : (book.remove text).rules =
      book.rules.filter fun rule => decide ¬ (rule.text == text) = true := by
    simp [remove, bne, Bool.beq_eq_decide_eq]
  rw [hkept, ← List.countP_eq_length_filter, countText]
  omega

/-! ## Editing -/

theorem apply_ofTexts (edit : RuleEdit) (texts : List String) :
    edit.apply (ofTexts texts) = ofTexts (edit.applyToTexts texts) := by
  cases edit with
  | add text => simp [RuleEdit.apply, RuleEdit.applyToTexts]
  | remove text => simp [RuleEdit.apply, RuleEdit.applyToTexts]

theorem edited_ofTexts (texts : List String) (edits : List RuleEdit) :
    (ofTexts texts).edited edits = ofTexts (RuleEdit.textsAfter texts edits) := by
  induction edits generalizing texts with
  | nil => rfl
  | cons edit rest ih =>
      have hfirst : (ofTexts texts).edited (edit :: rest) =
          (edit.apply (ofTexts texts)).edited rest := rfl
      rw [hfirst, apply_ofTexts, ih]
      rfl

/-- However a book is changed, its rules are those that the texts state which the same changes
leave; a text that is removed then takes as many rules with it as it occurs in these texts; and
every action is judged as by a new book with the texts of this one. -/
theorem edited_eq_recompiled (texts : List String) (edits : List RuleEdit) :
    let left := RuleEdit.textsAfter texts edits
    let book := (ofTexts texts).edited edits
    book.rules = left.map Rule.compile ∧ book.texts = left ∧
      (∀ text, book.countText text = left.count text ∧
        (book.remove text).rules.length + left.count text = book.rules.length) ∧
      ∀ action, Verdict.ofPermission (book.judge action) =
          Verdict.ofPermission ((ofTexts book.texts).judge action) ∧
        book.judgeLogs action = (ofTexts book.texts).judgeLogs action := by
  intro left book
  have hbook : book = ofTexts left := edited_ofTexts texts edits
  rw [hbook, texts_ofTexts]
  refine ⟨rfl, rfl, ?_, fun action => ⟨rfl, rfl⟩⟩
  intro text
  have hlength := length_remove (ofTexts left) text
  rw [countText_ofTexts] at hlength ⊢
  exact ⟨rfl, hlength⟩

/-! ## Judging by texts -/

/-- The first text that forbids an action is the reason of its denial. -/
theorem judge_ofTexts (texts : List String) (action : Action) :
    (ofTexts texts).judge action =
      match texts.find? fun text => decide ((Rule.compile text).Forbids action) with
      | some text => .denied text
      | none => .permitted := by
  rw [judge, judgeBy_eq_find, rules_ofTexts, List.find?_map, Function.comp_def]
  cases texts.find? fun text => decide ((Rule.compile text).Forbids action) with
  | none => rfl
  | some text => simp

theorem judge_ofTexts_eq_permitted :
    (ofTexts texts).judge action = .permitted ↔
      ∀ text ∈ texts, ¬ (Rule.compile text).Forbids action := by
  rw [judge_eq_permitted_iff, rules_ofTexts, List.forall_mem_map]

theorem judge_ofTexts_eq_denied :
    (ofTexts texts).judge action = .denied reason ↔
      (texts.find? fun text => decide ((Rule.compile text).Forbids action)) = some reason := by
  rw [judge_ofTexts]
  cases texts.find? fun text => decide ((Rule.compile text).Forbids action) with
  | none => simp
  | some text => simp

theorem forbids_of_denied (h : (ofTexts texts).judge action = .denied reason) :
    reason ∈ texts ∧ (Rule.compile reason).Forbids action := by
  rw [judge_ofTexts_eq_denied] at h
  exact ⟨List.mem_of_find?_eq_some h, by simpa using List.find?_some h⟩

theorem reason_ne_empty (h : (ofTexts texts).judge action = .denied reason) : reason ≠ "" := by
  obtain ⟨hkind, -⟩ := (forbids_of_denied h).2
  rw [Rule.kind_compile] at hkind
  exact Rule.ne_empty_of_prohibition hkind

theorem isReasoned_judge (texts : List String) (action : Action) :
    (Verdict.ofPermission ((ofTexts texts).judge action)).isReasoned = true := by
  cases h : (ofTexts texts).judge action with
  | permitted => rfl
  | denied reason => simp [Verdict.ofPermission, Verdict.isReasoned, reason_ne_empty h]

/-! ## Adding, removing and rearranging -/

theorem judge_add (h : (ofTexts texts).judge action = .denied reason) (text : String) :
    ((ofTexts texts).add text).judge action = .denied reason := by
  rw [judge_ofTexts_eq_denied] at h
  rw [add_ofTexts, judge_ofTexts_eq_denied, List.find?_append, h, Option.some_or]

theorem judge_remove_of_permitted (h : (ofTexts texts).judge action = .permitted)
    (text : String) : ((ofTexts texts).remove text).judge action = .permitted := by
  rw [judge_ofTexts_eq_permitted] at h
  rw [remove_ofTexts, judge_ofTexts_eq_permitted]
  intro other hother
  exact h other (List.mem_filter.1 hother).1

/-- Unless the reason itself is taken away, it stays the first text that forbids the action. -/
theorem judge_remove_of_denied (h : (ofTexts texts).judge action = .denied reason)
    (hother : reason ≠ text) : ((ofTexts texts).remove text).judge action = .denied reason := by
  rw [judge_ofTexts_eq_denied, List.find?_eq_some_iff_append] at h
  obtain ⟨hforbids, earlier, later, htexts, hearlier⟩ := h
  rw [remove_ofTexts, judge_ofTexts_eq_denied, List.find?_filter,
    List.find?_eq_some_iff_append]
  refine ⟨by simpa [hother] using hforbids, earlier, later, htexts, ?_⟩
  intro before hbefore
  have hnot := hearlier before hbefore
  simp at hnot
  simp [hnot]

theorem judge_perm {other : List String} (h : other.Perm texts) :
    (ofTexts other).judge action = .permitted ↔ (ofTexts texts).judge action = .permitted := by
  rw [judge_ofTexts_eq_permitted, judge_ofTexts_eq_permitted]
  simp [h.mem_iff]

def prohibitionsAmong (texts : List String) : List String :=
  texts.filter fun text => Rule.classify text == .prohibition

theorem judge_prohibitionsAmong (texts : List String) (action : Action) :
    (ofTexts (prohibitionsAmong texts)).judge action = (ofTexts texts).judge action := by
  have hforbids : ∀ text, (Rule.compile text).Forbids action →
      Rule.classify text = .prohibition := by
    intro text h
    rw [← Rule.kind_compile]
    exact h.1
  have hsame : (fun text => decide ((Rule.classify text == .prohibition) = true ∧
      decide ((Rule.compile text).Forbids action) = true)) =
        fun text => decide ((Rule.compile text).Forbids action) := by
    funext text
    by_cases h : (Rule.compile text).Forbids action
    · simp [h, hforbids text h]
    · simp [h]
  rw [judge_ofTexts, judge_ofTexts, prohibitionsAmong, List.find?_filter, hsame]

/-- What holds of every judgement by a list of texts, and of what becomes of it when the list is
changed. -/
structure JudgesSoundly (texts : List String) (action : Action) : Prop where
  /-- The verdict is one that can be given: it passes the check that a denial has a reason. -/
  answered : Verdict.decode (Verdict.ofPermission ((ofTexts texts).judge action)).toJson =
    .good (Verdict.ofPermission ((ofTexts texts).judge action))
  /-- A denial names a rule of the list, which is not empty. -/
  reasoned : ∀ reason, (ofTexts texts).judge action = .denied reason →
    reason ∈ texts ∧ reason ≠ ""
  /-- A further rule takes no denial back and leaves its reason. -/
  added : ∀ reason text, (ofTexts texts).judge action = .denied reason →
    ((ofTexts texts).add text).judge action = .denied reason
  /-- Without a rule, nothing is denied that was permitted. -/
  removed : ∀ text, (ofTexts texts).judge action = .permitted →
    ((ofTexts texts).remove text).judge action = .permitted
  /-- A denial for another reason outlasts the removal of a rule. -/
  removed_other : ∀ reason text, (ofTexts texts).judge action = .denied reason →
    reason ≠ text → ((ofTexts texts).remove text).judge action = .denied reason
  /-- The order of the rules does not decide what is permitted. -/
  reordered : ∀ other : List String, other.Perm texts →
    ((ofTexts other).judge action = .permitted ↔ (ofTexts texts).judge action = .permitted)
  /-- Nothing but the prohibitions and their order counts: wherever other rules are put in or left
  out, the judgement and its reason are the same. -/
  padded : ∀ other : List String, prohibitionsAmong other = prohibitionsAmong texts →
    (ofTexts other).judge action = (ofTexts texts).judge action

theorem judges_soundly (texts : List String) (action : Action) :
    JudgesSoundly texts action := by
  constructor
  case answered => exact Verdict.decode_toJson (isReasoned_judge texts action)
  case reasoned => exact fun reason h => ⟨(forbids_of_denied h).1, reason_ne_empty h⟩
  case added => exact fun reason text h => judge_add h text
  case removed => exact fun text h => judge_remove_of_permitted h text
  case removed_other => exact fun reason text h hother => judge_remove_of_denied h hother
  case reordered => exact fun other h => judge_perm h
  case padded =>
    intro other h
    rw [← judge_prohibitionsAmong other, h, judge_prohibitionsAmong]

end RuleBook

end Rulebound
