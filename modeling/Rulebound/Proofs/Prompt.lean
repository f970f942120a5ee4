import Rulebound.Proofs.Number.Numeral
import Rulebound.Proofs.Permission
import Rulebound.Proofs.Sink
import Rulebound.Proofs.Text.Pieces

/-!
# What the model is told of the rules

The instructions of a turn list the texts of the rules in force, and by these rules and no others
the action of that turn is judged. The list can be read back: rules of one line each are told from
any others by how they are listed.
-/

namespace Rulebound

/-! ## The list of rules -/

def IsOneLine (text : String) : Prop :=
  '\n' ∉ text.toList

instance (text : String) : Decidable (IsOneLine text) :=
  inferInstanceAs (Decidable (¬ _))

namespace Prompt

variable {rules others : List String}

/-- The lines on which rules are listed. -/
def rulesLines : List String → List String
  | [] => ["No specific rules."]
  | rules => numbered 1 rules

theorem rulesText_eq_join (rules : List String) :
    rulesText rules = Text.join (String.singleton '\n') (rulesLines rules) := by
  cases rules with
  | nil => decide
  | cons rule rest => rfl

theorem rulesLines_ne_nil (rules : List String) : rulesLines rules ≠ [] := by
  cases rules with
  | nil => exact List.cons_ne_nil _ _
  | cons rule rest => exact List.cons_ne_nil _ _

theorem isOneLine_numbered (h : ∀ rule ∈ rules, IsOneLine rule) (place : Nat) :
    ∀ line ∈ numbered place rules, IsOneLine line := by
  induction rules generalizing place with
  | nil => nofun
  | cons rule rest ih =>
      rw [numbered, List.forall_mem_cons]
      refine ⟨?_, ih (fun other hother => h other (List.mem_cons_of_mem rule hother)) (place + 1)⟩
      have hnumber : '\n' ∉ (intText place).toList :=
        (isNumeral_intText place).not_mem (by decide)
      have hpoint : '\n' ∉ (". " : String).toList := by decide
      have hrule : '\n' ∉ rule.toList := h rule List.mem_cons_self
      unfold IsOneLine
      simp only [String.toList_append, List.mem_append, not_or]
      exact ⟨⟨hnumber, hpoint⟩, hrule⟩

theorem isOneLine_rulesLines (h : ∀ rule ∈ rules, IsOneLine rule) :
    ∀ line ∈ rulesLines rules, IsOneLine line := by
  cases rules with
  | nil => decide
  | cons rule rest => exact isOneLine_numbered h 1

theorem numbered_inj (place : Nat) : numbered place rules = numbered place others ↔
    rules = others := by
  constructor
  · intro h
    induction rules generalizing place others with
    | nil =>
        cases others with
        | nil => rfl
        | cons other others => exact nomatch h
    | cons rule rest ih =>
        cases others with
        | nil => exact nomatch h
        | cons other others =>
            obtain ⟨hline, hrest⟩ := List.cons.inj h
            rw [String.append_right_inj] at hline
            rw [hline, ih (place + 1) hrest]
  · rintro rfl
    rfl

/-- That there are no rules is said in a line that no rule is listed on. -/
theorem rulesLines_inj : rulesLines rules = rulesLines others ↔ rules = others := by
  have hnone : ∀ (rule : String) (rest : List String),
      rulesLines [] ≠ rulesLines (rule :: rest) := by
    intro rule rest h
    have hfirst : ("No specific rules." : String) = intText 1 ++ ". " ++ rule :=
      (List.cons.inj h).1
    have hhead := congrArg (fun text => text.toList.head?) hfirst
    have hone : intText 1 = "1" := by decide
    simp [hone] at hhead
  constructor
  · intro h
    cases rules with
    | nil =>
        cases others with
        | nil => rfl
        | cons other others => exact absurd h (hnone other others)
    | cons rule rest =>
        cases others with
        | nil => exact absurd h.symm (hnone rule rest)
        | cons other others => exact (numbered_inj 1).1 h
  · rintro rfl
    rfl

/-- Rules of one line each are told from any others of that kind by how they are listed. -/
theorem rulesText_inj (h : ∀ rule ∈ rules, IsOneLine rule)
    (hothers : ∀ rule ∈ others, IsOneLine rule) :
    rulesText rules = rulesText others ↔ rules = others := by
  rw [rulesText_eq_join, rulesText_eq_join, Text.join_inj (rulesLines_ne_nil rules)
    (rulesLines_ne_nil others) (isOneLine_rulesLines h) (isOneLine_rulesLines hothers),
    rulesLines_inj]

def opening (profile : Profile) : String :=
  "You are " ++ profile.name ++ ", an AI agent in Minecraft.\n\n" ++
  "PERSONALITY: " ++ profile.personality ++ "\n\n" ++
  "YOUR GOAL: " ++ profile.goal ++ "\n\n" ++
  "RULES YOU MUST FOLLOW:\n"

def closing : String :=
  "\n\n" ++
  "You can perform these actions:\n" ++ Text.join "\n" catalog ++ "\n\n" ++
  Text.join "\n" knowledge ++ "\n\n" ++
  Text.join "\n" responseFormat

theorem systemText_eq (profile : Profile) (rules : List String) :
    systemText profile rules = opening profile ++ rulesText rules ++ closing := by
  unfold systemText opening closing
  simp only [String.append_assoc]

end Prompt

/-! ## What is asked in a turn -/

namespace Cycle.Agent

variable {σ γ : Type} {agent : Agent σ γ} {state : State σ γ}

theorem prompts_append (first later : List Event) :
    Event.prompts (first ++ later) = Event.prompts first ++ Event.prompts later :=
  List.filterMap_append

theorem prompts_notes (logs : List Log.Line) : Event.prompts (Event.notes logs) = [] := by
  simp [Event.prompts, Event.notes, Event.prompt?]

theorem prompts_act (agent : Agent σ γ) (book : RuleBook) (world : σ) (seen : Observation)
    (reply : Reply) (action : Action) :
    Event.prompts (agent.act book world seen reply action).2.2 = [] := by
  have hweighed : Event.prompts (.log (actionLog action) :: Event.notes (book.judgeLogs action)) =
      [] := prompts_notes (actionLog action :: book.judgeLogs action)
  unfold act
  cases book.judge action with
  | denied reason =>
      dsimp only
      rw [prompts_append, hweighed]
      rfl
  | permitted =>
      have hcalls : Event.prompts ((dispatch agent.body world action).call?.toList.map .call) =
          [] := by
        cases (dispatch agent.body world action).call? <;> rfl
      have hdispatch : ∀ rest, Event.prompts (.dispatch action :: rest) = Event.prompts rest :=
        fun rest => rfl
      dsimp only
      rw [prompts_append, prompts_append, hweighed, hdispatch, hcalls, prompts_notes]
      rfl

theorem prompts_follow (agent : Agent σ γ) (book : RuleBook) (world : σ) (seen : Observation)
    (reply : Reply) : Event.prompts (agent.follow book world seen reply).2.2 = [] := by
  unfold follow
  cases reply.action? with
  | error fault => rfl
  | ok action? =>
      cases action? with
      | none => exact prompts_notes _
      | some action => exact prompts_act agent book world seen reply action

theorem system_of_asks {seen : Observation} {prompt : Prompt} (h : agent.Asks state seen prompt) :
    prompt.system = Prompt.systemText agent.profile state.book.texts := by
  obtain ⟨-, hprompt⟩ := h
  unfold Prompt.make at hprompt
  cases huser : Prompt.userText seen agent.profile.goal with
  | error fault => simp [huser, bind, Except.bind] at hprompt
  | ok user =>
      rw [huser] at hprompt
      obtain rfl := Except.ok.inj hprompt
      rfl

section Asking

variable [Json.Nesting]

theorem prompts_turn (agent : Agent σ γ) (state : State σ γ) :
    Event.prompts (agent.turn state).events = Event.prompts (agent.attempt state).events := by
  rw [← Event.prompts_apart, apart_turn, prompts_append, Event.prompts_apart]
  have hnoted : Event.prompts (Event.apart
      ((agent.attempt state).attempt.fault?.toList.map fun _ => .log (.error faultMessage))) =
        [] := by
    rw [Event.prompts_apart]
    cases (agent.attempt state).attempt.fault? <;> rfl
  rw [hnoted, List.append_nil]

/-- An agent that has a prompt asks once. -/
theorem prompts_of_asks {seen : Observation} {prompt : Prompt} (h : agent.Asks state seen prompt) :
    Event.prompts (agent.turn state).events = [prompt] := by
  have hasked : ∀ logs later, Event.prompts later = [] →
      Event.prompts (.observe :: Event.notes (agent.body.observe state.world).logs ++
        .generate prompt :: Event.notes logs ++ later) = [prompt] := by
    intro logs later hlater
    have hlooked : Event.prompts (.observe :: Event.notes (agent.body.observe state.world).logs) =
        [] := prompts_notes (agent.body.observe state.world).logs
    have hgenerate : ∀ rest, Event.prompts (.generate prompt :: rest) =
        prompt :: Event.prompts rest := fun rest => rfl
    rw [prompts_append, prompts_append, hlooked, hgenerate, prompts_notes, hlater]
    rfl
  rw [prompts_turn]
  cases hanswer : (agent.answerTo state prompt).result with
  | error fault =>
      rw [attempt_of_unanswered h hanswer]
      have hsame := hasked (agent.answerTo state prompt).logs [] rfl
      rwa [List.append_nil] at hsame
  | ok reply =>
      rw [attempt_of_heard h hanswer]
      exact hasked _ _ (prompts_follow ..)

theorem prompts_of_not_asks (h : ∀ seen prompt, ¬ agent.Asks state seen prompt) :
    Event.prompts (agent.turn state).events = [] := by
  rw [prompts_turn]
  rcases attempt_cases agent state with ⟨fault, hunseen⟩ | ⟨seen, fault, hseen, hunasked⟩ |
    ⟨seen, prompt, fault, hasks, -⟩ | ⟨seen, prompt, reply, hasks, -⟩
  · rw [attempt_of_unseen hunseen]
    exact prompts_notes _
  · rw [attempt_of_unasked hseen hunasked]
    exact prompts_notes _
  · exact absurd hasks (h seen prompt)
  · exact absurd hasks (h seen prompt)

theorem proposes_of_action? {action : Action}
    (h : (agent.turn state).attempt.action? = some action) : agent.Proposes state action := by
  rw [turn_attempt] at h
  by_cases hsome : ∃ other, agent.Proposes state other
  · obtain ⟨other, hproposes⟩ := hsome
    obtain ⟨seen, reply, -, hacted, -⟩ := hproposes.attempt
    have hsame : other = action := by
      rw [hacted] at h
      cases hjudge : state.book.judge other with
      | denied reason =>
          rw [(act_of_denied hjudge agent _ seen reply).1] at h
          exact Option.some.inj h
      | permitted =>
          rw [(act_of_permitted hjudge agent _ seen reply).1] at h
          exact Option.some.inj h
    exact hsame ▸ hproposes
  · obtain ⟨-, hnone, -⟩ := attempt_of_no_proposal fun other hother => hsome ⟨other, hother⟩
    rw [hnone] at h
    exact nomatch h

/-- A turn is open about some rules: they are listed to the model whenever it is asked, and the
action that it proposes is judged by them. -/
structure IsOpenAbout (agent : Agent σ γ) (rules : List String) (turn : Turn σ γ) : Prop where
  asks_once : (Event.prompts turn.events).length ≤ 1
  tells : ∀ prompt ∈ Event.prompts turn.events,
    prompt.system = Prompt.opening agent.profile ++ Prompt.rulesText rules ++ Prompt.closing
  judges : ∀ action, turn.attempt.action? = some action →
    Event.prompts turn.events ≠ [] ∧
      turn.attempt.violation? =
        (Verdict.ofPermission ((RuleBook.ofTexts rules).judge action)).reason ∧
      (.dispatch action ∈ turn.events ↔ (RuleBook.ofTexts rules).judge action = .permitted)

/-- Every turn is open about the rules in force. -/
theorem turn_isOpenAbout {rules : List String} (hbook : state.book = .ofTexts rules) :
    agent.IsOpenAbout rules (agent.turn state) := by
  have htexts : state.book.texts = rules := by rw [hbook, RuleBook.texts_ofTexts]
  have hasked : (∃ seen prompt, agent.Asks state seen prompt ∧
      Event.prompts (agent.turn state).events = [prompt]) ∨
        Event.prompts (agent.turn state).events = [] := by
    by_cases hsome : ∃ seen prompt, agent.Asks state seen prompt
    · obtain ⟨seen, prompt, hasks⟩ := hsome
      exact .inl ⟨seen, prompt, hasks, prompts_of_asks hasks⟩
    · exact .inr (prompts_of_not_asks fun seen prompt hasks => hsome ⟨seen, prompt, hasks⟩)
  refine ⟨?_, fun prompt hprompt => ?_, fun action haction => ?_⟩
  · rcases hasked with ⟨seen, prompt, -, hone⟩ | hnone
    · simp [hone]
    · simp [hnone]
  · rcases hasked with ⟨seen, other, hasks, hone⟩ | hnone
    · rw [hone, List.mem_singleton] at hprompt
      rw [hprompt, system_of_asks hasks, htexts]
      exact Prompt.systemText_eq agent.profile rules
    · rw [hnone] at hprompt
      exact absurd hprompt List.not_mem_nil
  · have hproposes := proposes_of_action? haction
    obtain ⟨-, ⟨seen, prompt, hasks, -⟩, -⟩ := id hproposes
    obtain ⟨seen', reply, -, hacted, -⟩ := hproposes.attempt
    have hattempt : (agent.turn state).attempt =
        (agent.act state.book (agent.looked state) seen' reply action).1 := hacted
    refine ⟨by simp [prompts_of_asks hasks], ?_⟩
    rw [← hbook, hattempt, ← Event.mem_dispatches]
    cases hjudge : state.book.judge action with
    | denied reason =>
        rw [(act_of_denied hjudge agent _ seen' reply).1, dispatches_of_denied hproposes hjudge]
        exact ⟨rfl, ⟨nofun, nofun⟩⟩
    | permitted =>
        rw [(act_of_permitted hjudge agent _ seen' reply).1,
          dispatches_of_permitted hproposes hjudge]
        exact ⟨rfl, ⟨fun _ => rfl, fun _ => List.mem_singleton_self action⟩⟩

/-- Every turn of every course is open about the rules in force: the texts that the course began
with, with all changes since then. Different rules of one line each are never listed alike. -/
theorem course_isOpenAbout_rules (agent : Agent σ γ) (conditions : Conditions) (limit : Nat)
    {start : State σ γ} {texts : List String} (hbook : start.book = .ofTexts texts)
    (before : List Event) :
    (∀ (place : Nat) (turn : Turn σ γ),
      (agent.course conditions limit start before).turns[place]? = some turn →
        agent.IsOpenAbout (RuleEdit.textsAfter texts (editsBefore conditions.edits place)) turn) ∧
    ∀ rules others : List String, (∀ rule ∈ rules, IsOneLine rule) →
      (∀ rule ∈ others, IsOneLine rule) →
        (Prompt.rulesText rules = Prompt.rulesText others ↔ rules = others) := by
  refine ⟨fun place turn hturn => ?_, fun rules others h hothers => Prompt.rulesText_inj h hothers⟩
  rw [course_turn_at hturn]
  refine turn_isOpenAbout ?_
  rw [stateAt_book, hbook, RuleBook.edited_ofTexts]

end Asking

section Added

attribute [local instance] Json.Nesting.usual

/-- A rule that is added after the first turn is listed in the second, in which it forbids what was
done in the first. -/
theorem added_rule_told_and_enforced :
    let start := scriptedStart { inventory := .ofList [("dirt", 2)] } ["ACTION: place dirt"]
      ["be polite"]
    let conditions : Conditions :=
      { edits := fun done => if done = 1 then [.add "must not place dirt"] else [] }
    ∃ turn, (scripted.course conditions 2 start []).turns[1]? = some turn ∧
      scripted.IsOpenAbout ["be polite", "must not place dirt"] turn ∧
      Prompt.rulesText ["be polite", "must not place dirt"] =
        "1. be polite\n2. must not place dirt" ∧
      turn.attempt.violation? = some "must not place dirt" := by
  intro start conditions
  have hviolation : ((scripted.course conditions 2 start []).turns[1]?.map
      (·.attempt.violation?)) = some (some "must not place dirt") := by
    decide +kernel
  obtain ⟨turn, hturn, hdenied⟩ := Option.map_eq_some_iff.1 hviolation
  have hopen := (course_isOpenAbout_rules scripted conditions 2 rfl []).1 1 turn hturn
  have hrules : RuleEdit.textsAfter ["be polite"] (editsBefore conditions.edits 1) =
      ["be polite", "must not place dirt"] := by
    decide
  rw [hrules] at hopen
  exact ⟨turn, hturn, hopen, by decide, hdenied⟩

end Added

end Cycle.Agent

end Rulebound
