import Rulebound.Proofs.Mediation

/-!
# What the phases of a turn say

Every turn looks first, and is logged and at rest in the end. In between it asks, reads, weighs and
acts, and goes only as far as nothing stops it. So the last of these phases tells what stopped the
turn, and with it what its record holds. A turn that is left without its record by the diary is
logged and does not come to rest.
-/

namespace Rulebound.Cycle

/-! ## Phases of attempts -/

namespace Attempt

variable {attempt : Attempt}

def furtherPhases : List Phase :=
  [.prompting, .parsing, .authorizing, .dispatching]

theorem working_split (attempt : Attempt) :
    ∃ further, further <+: furtherPhases ∧ attempt.working = .observing :: further := by
  cases attempt with
  | unseen => exact ⟨[], ⟨furtherPhases, rfl⟩, rfl⟩
  | unanswered => exact ⟨[.prompting], ⟨[.parsing, .authorizing, .dispatching], rfl⟩, rfl⟩
  | unreadable => exact ⟨[.prompting, .parsing], ⟨[.authorizing, .dispatching], rfl⟩, rfl⟩
  | unparsed => exact ⟨[.prompting, .parsing], ⟨[.authorizing, .dispatching], rfl⟩, rfl⟩
  | denied => exact ⟨[.prompting, .parsing, .authorizing], ⟨[.dispatching], rfl⟩, rfl⟩
  | dispatched => exact ⟨furtherPhases, ⟨[], rfl⟩, rfl⟩

theorem working_eq_observing :
    attempt.working = [.observing] ↔ ∃ fault, attempt = .unseen fault := by
  cases attempt <;> simp [working]

theorem working_eq_prompting :
    attempt.working = [.observing, .prompting] ↔
      ∃ seen fault, attempt = .unanswered seen fault := by
  cases attempt <;> simp [working]

theorem working_eq_parsing :
    attempt.working = [.observing, .prompting, .parsing] ↔
      (∃ seen reply, attempt = .unparsed seen reply) ∨
        ∃ seen reply fault, attempt = .unreadable seen reply fault := by
  cases attempt <;> simp [working]

theorem working_eq_authorizing :
    attempt.working = [.observing, .prompting, .parsing, .authorizing] ↔
      ∃ seen reply action reason, attempt = .denied seen reply action reason := by
  cases attempt <;> simp [working]

theorem working_eq_dispatching :
    attempt.working = [.observing, .prompting, .parsing, .authorizing, .dispatching] ↔
      ∃ seen reply action ok, attempt = .dispatched seen reply action ok := by
  cases attempt <;> simp [working]

end Attempt

section Phases

variable {σ γ : Type} {turn : Turn σ γ}

theorem Turn.phases_of_record {record : Record} (h : turn.record = .ok record) :
    turn.phases = turn.attempt.working ++ [.logging, .idle] := by
  unfold phases
  rw [h]
  rfl

theorem Turn.phases_of_fault {fault : Fault} (h : turn.record = .error fault) :
    turn.phases = turn.attempt.working ++ [.logging] := by
  unfold phases
  rw [h]
  rfl

/-- A turn that is recorded went through some phases exactly if these did its work. -/
theorem Turn.phases_eq_iff {record : Record} (h : turn.record = .ok record)
    (worked : List Phase) :
    turn.phases = worked ++ [.logging, .idle] ↔ turn.attempt.working = worked := by
  rw [phases_of_record h, List.append_left_inj]

end Phases

/-! ## What an attempt comes from -/

namespace Agent

variable {σ γ : Type} {agent : Agent σ γ} {state : State σ γ}

/-- In a state, the agent sees something and is given a reply to it. -/
def Answers (agent : Agent σ γ) (state : State σ γ) (seen : Observation) (reply : Reply) : Prop :=
  ∃ prompt, agent.Asks state seen prompt ∧ (agent.answerTo state prompt).result = .ok reply

/-- In a state, the agent sees something, and there is no prompt for it or no answer to the
prompt. -/
def Lacks (agent : Agent σ γ) (state : State σ γ) (seen : Observation) (fault : Fault) : Prop :=
  (agent.Sees state seen ∧ Prompt.make agent.profile state.book.texts seen = .error fault) ∨
    ∃ prompt, agent.Asks state seen prompt ∧ (agent.answerTo state prompt).result = .error fault

/-- What has to come about in a state for a turn to get as far as an attempt says. -/
def LeadsTo (agent : Agent σ γ) (state : State σ γ) : Attempt → Prop
  | .unseen fault => (agent.body.observe state.world).result = .error fault
  | .unanswered seen fault => agent.Lacks state seen fault
  | .unreadable seen reply fault =>
      agent.Answers state seen reply ∧ reply.action? = .error fault
  | .unparsed seen reply => agent.Answers state seen reply ∧ reply.action? = .ok none
  | .denied seen reply action reason =>
      agent.Answers state seen reply ∧ reply.action? = .ok (some action) ∧
        state.book.judge action = .denied reason
  | .dispatched seen reply action ok =>
      agent.Answers state seen reply ∧ reply.action? = .ok (some action) ∧
        state.book.judge action = .permitted ∧
        (dispatch agent.body (agent.looked state) action).ok = ok

theorem follow_of_action {reply : Reply} {action : Action}
    (h : reply.action? = .ok (some action)) (agent : Agent σ γ) (book : RuleBook) (world : σ)
    (seen : Observation) :
    agent.follow book world seen reply = agent.act book world seen reply action := by
  simp [follow, h]

theorem attempt_of_leadsTo {attempt : Attempt} (h : agent.LeadsTo state attempt) :
    (agent.attempt state).attempt = attempt := by
  cases attempt with
  | unseen fault => rw [attempt_of_unseen h]
  | unanswered seen fault =>
      rcases h with ⟨hseen, hunasked⟩ | ⟨prompt, hasks, hunanswered⟩
      · rw [attempt_of_unasked hseen hunasked]
      · rw [attempt_of_unanswered hasks hunanswered]
  | unreadable seen reply fault =>
      obtain ⟨⟨prompt, hasks, hanswer⟩, hread⟩ := h
      rw [attempt_of_heard hasks hanswer]
      simp [follow, hread]
  | unparsed seen reply =>
      obtain ⟨⟨prompt, hasks, hanswer⟩, hread⟩ := h
      rw [attempt_of_heard hasks hanswer]
      simp [follow, hread]
  | denied seen reply action reason =>
      obtain ⟨⟨prompt, hasks, hanswer⟩, hread, hjudge⟩ := h
      rw [attempt_of_heard hasks hanswer, follow_of_action hread]
      exact (act_of_denied hjudge agent _ seen reply).1
  | dispatched seen reply action ok =>
      obtain ⟨⟨prompt, hasks, hanswer⟩, hread, hjudge, rfl⟩ := h
      rw [attempt_of_heard hasks hanswer, follow_of_action hread]
      exact (act_of_permitted hjudge agent _ seen reply).1

/-- Something brings every turn as far as it gets. -/
theorem exists_leadsTo (agent : Agent σ γ) (state : State σ γ) :
    ∃ attempt, agent.LeadsTo state attempt := by
  rcases attempt_cases agent state with ⟨fault, hunseen⟩ | ⟨seen, fault, hseen, hunasked⟩ |
    ⟨seen, prompt, fault, hasks, hunanswered⟩ | ⟨seen, prompt, reply, hasks, hheard⟩
  · exact ⟨.unseen fault, hunseen⟩
  · exact ⟨.unanswered seen fault, .inl ⟨hseen, hunasked⟩⟩
  · exact ⟨.unanswered seen fault, .inr ⟨prompt, hasks, hunanswered⟩⟩
  · have hanswers : agent.Answers state seen reply := ⟨prompt, hasks, hheard⟩
    cases hread : reply.action? with
    | error fault => exact ⟨.unreadable seen reply fault, hanswers, hread⟩
    | ok action? =>
        cases action? with
        | none => exact ⟨.unparsed seen reply, hanswers, hread⟩
        | some action =>
            cases hjudge : state.book.judge action with
            | denied reason =>
                exact ⟨.denied seen reply action reason, hanswers, hread, hjudge⟩
            | permitted =>
                exact ⟨.dispatched seen reply action _, hanswers, hread, hjudge, rfl⟩

/-- How far a turn gets is settled by what comes about in its state. -/
theorem attempt_eq_iff {attempt : Attempt} :
    (agent.attempt state).attempt = attempt ↔ agent.LeadsTo state attempt := by
  constructor
  · rintro rfl
    obtain ⟨attempt, hleads⟩ := exists_leadsTo agent state
    rw [attempt_of_leadsTo hleads]
    exact hleads
  · exact attempt_of_leadsTo

theorem readable_of_words (h : agent.HearsWords state) {seen : Observation} {reply : Reply}
    (hanswers : agent.Answers state seen reply) (fault : Fault) :
    reply.action? ≠ .error fault := by
  cases reply with
  | text value => exact nofun
  | nothing => exact nofun
  | other value =>
      obtain ⟨prompt, hasks, hanswer⟩ := hanswers
      exact absurd ⟨seen, prompt, hasks, hanswer⟩ (h value)

theorem Answers.proposes {seen : Observation} {reply : Reply} {action : Action}
    (h : agent.Answers state seen reply) (haction : reply.action? = .ok (some action)) :
    agent.Proposes state action := by
  obtain ⟨prompt, hasks, hanswer⟩ := h
  exact ⟨reply, ⟨seen, prompt, hasks, hanswer⟩, haction⟩

end Agent

/-! ## What the phases say -/

/-- What a record holds beside its number, its time, its goal and the reply. -/
structure Record.Holds (record : Record) (observation : Option Observation)
    (action : Option Action) (result : Result) (violation : Option String) : Prop where
  observation : record.observation = observation
  action : record.action = action
  result : record.result = result
  violation : record.violation = violation

namespace Agent

variable {σ γ : Type} {agent : Agent σ γ} {state : State σ γ}

/-- What the phases of a turn that begins in a state say about it and about its record. -/
structure Accounted (agent : Agent σ γ) (state : State σ γ) (turn : Turn σ γ)
    (record : Record) : Prop where
  /-- The turn goes from looking through the first of the further phases to its end, at rest. -/
  history : ∃ further, further <+: Attempt.furtherPhases ∧
    turn.phases = .observing :: further ++ [.logging, .idle]
  /-- Looking is all of it if and only if nothing was seen. -/
  blind : turn.phases = [.observing, .logging, .idle] ↔ record.observation = none
  /-- Nothing was seen because the body reported a fault. -/
  observing : turn.phases = [.observing, .logging, .idle] ↔
    ∃ fault, (agent.body.observe state.world).result = .error fault ∧
      record.Holds none none ⟨false, some fault.summary⟩ none
  /-- It ends with asking if and only if there was no prompt, or the backend reported a fault. -/
  prompting : turn.phases = [.observing, .prompting, .logging, .idle] ↔
    ∃ seen fault, agent.Lacks state seen fault ∧
      record.Holds (some seen) none ⟨false, some fault.summary⟩ none
  /-- It ends with reading if and only if the reply has no action. -/
  parsing : turn.phases = [.observing, .prompting, .parsing, .logging, .idle] ↔
    ∃ seen reply, agent.Answers state seen reply ∧ reply.action? = .ok none ∧
      record.Holds (some seen) none ⟨false, some "Could not parse action"⟩ none
  /-- It ends with weighing if and only if the action is denied. -/
  authorizing :
    turn.phases = [.observing, .prompting, .parsing, .authorizing, .logging, .idle] ↔
    ∃ seen reply action reason, agent.Answers state seen reply ∧
      reply.action? = .ok (some action) ∧ state.book.judge action = .denied reason ∧
      record.Holds (some seen) (some action) ⟨false, some ("Blocked: " ++ reason)⟩ (some reason)
  /-- It ends with acting if and only if the action is permitted, and then acting settles its
  result. -/
  dispatching :
    turn.phases = [.observing, .prompting, .parsing, .authorizing, .dispatching, .logging, .idle] ↔
    ∃ seen reply action, agent.Answers state seen reply ∧
      reply.action? = .ok (some action) ∧ state.book.judge action = .permitted ∧
      record.Holds (some seen) (some action)
        ⟨(dispatch agent.body (agent.looked state) action).ok, none⟩ none
  /-- The reply is recorded as it is. -/
  reasoning : ∀ seen reply, agent.Answers state seen reply →
    Json.ofText? record.reasoning = reply.toJson
  /-- Only a permitted action that was handed over succeeds. -/
  success : record.result.success = true → ∃ action, record.action = some action ∧
    agent.Proposes state action ∧ state.book.judge action = .permitted ∧
    .dispatch action ∈ turn.events

theorem recordOf_holds {record : Record} (h : agent.recordOf state = .ok record) :
    record.Holds (agent.attempt state).attempt.observation? (agent.attempt state).attempt.action?
      (agent.attempt state).attempt.result (agent.attempt state).attempt.violation? := by
  obtain ⟨reasoning, -, rfl⟩ := Attempt.exists_reasoning h
  exact ⟨rfl, rfl, rfl, rfl⟩

theorem recordOf_reasoning (h : agent.HearsWords state) {record : Record} {seen : Observation}
    {reply : Reply} (hrecord : agent.recordOf state = .ok record)
    (hanswers : agent.Answers state seen reply) :
    Json.ofText? record.reasoning = reply.toJson := by
  obtain ⟨prompt, hasks, hanswer⟩ := hanswers
  obtain ⟨reasoning, hreasoning, rfl⟩ := Attempt.exists_reasoning hrecord
  have hreply : (agent.attempt state).attempt.reply? = some reply :=
    attempt_reply?_iff.2 ⟨seen, prompt, hasks, hanswer⟩
  unfold Attempt.reasoning at hreasoning
  rw [hreply] at hreasoning
  cases reply with
  | text value =>
      obtain rfl := Checked.good.inj hreasoning
      rfl
  | nothing =>
      obtain rfl := Checked.good.inj hreasoning
      rfl
  | other value => exact absurd ⟨seen, prompt, hasks, hanswer⟩ (h value)

section Accounting

variable [Json.Nesting]

theorem dispatched_of_success {record : Record} (h : agent.recordOf state = .ok record)
    (hsuccess : record.result.success = true) :
    ∃ action, record.action = some action ∧ agent.Proposes state action ∧
      state.book.judge action = .permitted ∧ .dispatch action ∈ (agent.turn state).events := by
  have hholds := recordOf_holds h
  rw [hholds.result] at hsuccess
  cases hattempt : (agent.attempt state).attempt with
  | dispatched seen reply action ok =>
      obtain ⟨hanswers, haction, hjudge, -⟩ := attempt_eq_iff.1 hattempt
      have hproposes := hanswers.proposes haction
      refine ⟨action, by rw [hholds.action, hattempt]; rfl, hproposes, hjudge, ?_⟩
      rw [← Event.mem_dispatches, dispatches_of_permitted hproposes hjudge]
      exact List.mem_singleton_self action
  | _ =>
      rw [hattempt] at hsuccess
      exact nomatch hsuccess

theorem accounted_of_record (h : agent.HearsWords state) {record : Record}
    (hrecord : (agent.turn state).record = .ok record) :
    agent.Accounted state (agent.turn state) record := by
  have hmade : agent.recordOf state = .ok record := (turn_record_iff.1 hrecord).1
  have hholds := recordOf_holds hmade
  have hphases : ∀ worked, (agent.turn state).phases = worked ++ [.logging, .idle] ↔
      (agent.attempt state).attempt.working = worked := Turn.phases_eq_iff hrecord
  constructor
  case history =>
    obtain ⟨further, hfurther, hworked⟩ := Attempt.working_split (agent.attempt state).attempt
    exact ⟨further, hfurther, (hphases _).2 hworked⟩
  case blind =>
    refine (hphases [.observing]).trans ?_
    rw [Attempt.working_eq_observing, hholds.observation]
    cases (agent.attempt state).attempt <;> simp [Attempt.observation?]
  case observing =>
    refine (hphases [.observing]).trans ?_
    rw [Attempt.working_eq_observing]
    constructor
    · rintro ⟨fault, hattempt⟩
      rw [hattempt] at hholds
      exact ⟨fault, attempt_eq_iff.1 hattempt, hholds⟩
    · rintro ⟨fault, hunseen, -⟩
      exact ⟨fault, attempt_eq_iff.2 hunseen⟩
  case prompting =>
    refine (hphases [.observing, .prompting]).trans ?_
    rw [Attempt.working_eq_prompting]
    constructor
    · rintro ⟨seen, fault, hattempt⟩
      rw [hattempt] at hholds
      exact ⟨seen, fault, attempt_eq_iff.1 hattempt, hholds⟩
    · rintro ⟨seen, fault, hlacks, -⟩
      exact ⟨seen, fault, attempt_eq_iff.2 hlacks⟩
  case parsing =>
    refine (hphases [.observing, .prompting, .parsing]).trans ?_
    rw [Attempt.working_eq_parsing]
    constructor
    · rintro (⟨seen, reply, hattempt⟩ | ⟨seen, reply, fault, hattempt⟩)
      · obtain ⟨hanswers, hread⟩ := attempt_eq_iff.1 hattempt
        rw [hattempt] at hholds
        exact ⟨seen, reply, hanswers, hread, hholds⟩
      · obtain ⟨hanswers, hread⟩ := attempt_eq_iff.1 hattempt
        exact absurd hread (readable_of_words h hanswers fault)
    · rintro ⟨seen, reply, hanswers, hread, -⟩
      exact .inl ⟨seen, reply, attempt_eq_iff.2 ⟨hanswers, hread⟩⟩
  case authorizing =>
    refine (hphases [.observing, .prompting, .parsing, .authorizing]).trans ?_
    rw [Attempt.working_eq_authorizing]
    constructor
    · rintro ⟨seen, reply, action, reason, hattempt⟩
      obtain ⟨hanswers, haction, hjudge⟩ := attempt_eq_iff.1 hattempt
      rw [hattempt] at hholds
      exact ⟨seen, reply, action, reason, hanswers, haction, hjudge, hholds⟩
    · rintro ⟨seen, reply, action, reason, hanswers, haction, hjudge, -⟩
      exact ⟨seen, reply, action, reason, attempt_eq_iff.2 ⟨hanswers, haction, hjudge⟩⟩
  case dispatching =>
    refine (hphases [.observing, .prompting, .parsing, .authorizing, .dispatching]).trans ?_
    rw [Attempt.working_eq_dispatching]
    constructor
    · rintro ⟨seen, reply, action, ok, hattempt⟩
      obtain ⟨hanswers, haction, hjudge, rfl⟩ := attempt_eq_iff.1 hattempt
      rw [hattempt] at hholds
      exact ⟨seen, reply, action, hanswers, haction, hjudge, hholds⟩
    · rintro ⟨seen, reply, action, hanswers, haction, hjudge, -⟩
      exact ⟨seen, reply, action, _, attempt_eq_iff.2 ⟨hanswers, haction, hjudge, rfl⟩⟩
  case reasoning => exact fun seen reply hanswers => recordOf_reasoning h hmade hanswers
  case success => exact dispatched_of_success hmade

/-- Whatever the body shows and the backend answers in words, a turn is recorded without a diary, or
if it can be written to one; and the phases of a turn that is recorded say what its record holds and
why. A turn that is not recorded has come to its logging, and no further. -/
theorem turn_accounted (h : agent.HearsWords state) :
    (agent.diary? = none ∨ (agent.turn state).IsCountable →
      ∃ record, (agent.turn state).record = .ok record) ∧
    (∀ record, (agent.turn state).record = .ok record →
      agent.Accounted state (agent.turn state) record) ∧
    ∀ fault, (agent.turn state).record = .error fault →
      ∃ further, further <+: Attempt.furtherPhases ∧
        (agent.turn state).phases = .observing :: further ++ [.logging] := by
  refine ⟨exists_record h, fun record => accounted_of_record h, fun fault hfault => ?_⟩
  obtain ⟨further, hfurther, hworked⟩ := Attempt.working_split (agent.attempt state).attempt
  exact ⟨further, hfurther, (Turn.phases_of_fault hfault).trans (congrArg (· ++ _) hworked)⟩

end Accounting

section Chatting

attribute [local instance] Json.Nesting.usual

theorem chat_accounted :
    let start := scriptedStart {} ["ACTION: chat hello"] ["Cannot attack players"]
    ∃ record, (diligent.turn start).record = .ok record ∧
      diligent.Accounted start (diligent.turn start) record ∧ record.result = ⟨true, none⟩ := by
  intro start
  have hwords : diligent.HearsWords start :=
    hearsWords_of_texts ["ACTION: chat hello"] rfl rfl
  have hcount : (diligent.turn start).IsCountable := by decide +kernel
  have hresult : (diligent.turn start).record.toOption.map (·.result) = some ⟨true, none⟩ := by
    decide +kernel
  obtain ⟨hrecorded, haccounted, -⟩ := turn_accounted hwords
  obtain ⟨record, hrecord⟩ := hrecorded (.inr hcount)
  rw [hrecord] at hresult
  exact ⟨record, hrecord, haccounted record hrecord, Option.some.inj hresult⟩

/-- A turn in which too much is seen to be carried is not recorded, and does not come to rest. -/
theorem hoarding_not_at_rest :
    let start := scriptedStart hoard ["ACTION: chat hello"] []
    diligent.HearsWords start ∧ (∃ fault, (diligent.turn start).record = .error fault) ∧
      (diligent.turn start).phases.getLast? = some .logging := by
  intro start
  have hwords : diligent.HearsWords start :=
    hearsWords_of_texts ["ACTION: chat hello"] rfl rfl
  obtain ⟨fault, hfault⟩ : ∃ fault, (diligent.turn start).record = .error fault :=
    diligent_hoarding rfl
  refine ⟨hwords, ⟨fault, hfault⟩, ?_⟩
  rw [Turn.phases_of_fault hfault, List.getLast?_concat]

end Chatting

end Agent

end Rulebound.Cycle
