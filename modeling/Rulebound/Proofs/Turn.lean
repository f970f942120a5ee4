import Rulebound.Cycle.Turn

/-!
# What one turn does

A turn sees, asks, reads, weighs and acts, and stops at the first of these that fails. Each case
is stated once: what the attempt is, where it leaves the body, and which deeds are among its
events. Writing to the diary adds no deed and takes none away.
-/

namespace Rulebound

/-! ## Events that are deeds -/

namespace Event

def dispatched? : Event → Option Action
  | dispatch action => some action
  | _ => none

def dispatches (events : List Event) : List Action :=
  events.filterMap dispatched?

theorem mem_dispatches {events : List Event} {action : Action} :
    action ∈ dispatches events ↔ .dispatch action ∈ events := by
  simp only [dispatches, List.mem_filterMap]
  constructor
  · rintro ⟨event, hmem, hevent⟩
    cases event <;> simp_all [dispatched?]
  · exact fun hmem => ⟨_, hmem, rfl⟩

/-- A view of events that sees what is done, and neither notes nor what is written. -/
structure OfDeeds {β : Type} (view : Event → Option β) : Prop where
  log : ∀ line, view (.log line) = none
  write : ∀ entry kept, view (.write entry kept) = none
  observe : view .observe = none
  generate : ∀ prompt, view (.generate prompt) = none

theorem ofDeeds_dispatched? : OfDeeds dispatched? :=
  ⟨fun _ => rfl, fun _ _ => rfl, rfl, fun _ => rfl⟩

theorem ofDeeds_call? : OfDeeds call? :=
  ⟨fun _ => rfl, fun _ _ => rfl, rfl, fun _ => rfl⟩

theorem OfDeeds.filterMap_notes {β : Type} {view : Event → Option β} (h : OfDeeds view)
    (logs : List Log.Line) : (notes logs).filterMap view = [] := by
  simp [notes, h.log]

end Event

namespace Cycle.Agent

variable {σ γ β : Type}

/-! ## Writing -/

theorem filterMap_andThen {view : Event → Option β} {first : Written} {next : Nat → Written}
    (hfirst : first.events.filterMap view = [])
    (hnext : ∀ writes, (next writes).events.filterMap view = []) :
    (first.andThen next).events.filterMap view = [] := by
  unfold Written.andThen
  cases first.fault? with
  | some fault => exact hfirst
  | none =>
      dsimp only
      rw [List.filterMap_append, hfirst, hnext, List.append_nil]

section Writing

variable [Json.Nesting] {view : Event → Option β} (h : Event.OfDeeds view) (agent : Agent σ γ)

include h

theorem filterMap_write (writes : Nat) (entry : Diary.Entry) :
    (agent.write writes entry).events.filterMap view = [] := by
  unfold write
  cases agent.diary? with
  | none => rfl
  | some path =>
      cases agent.obstruction? writes entry with
      | none => simp [h.write]
      | some fault => cases hsystem : fault.kind.isSystem <;> simp [hsystem, h.write, h.log]

theorem filterMap_writeAll (writes : Nat) (entries : List Diary.Entry) :
    (agent.writeAll writes entries).events.filterMap view = [] := by
  induction entries generalizing writes with
  | nil => rfl
  | cons entry rest ih => exact filterMap_andThen (filterMap_write h agent writes entry) ih

theorem filterMap_writeFault (writes : Nat) (now : Instant) (fault? : Option Fault) :
    (agent.writeFault writes now fault?).events.filterMap view = [] := by
  cases fault? with
  | none => rfl
  | some fault => simp only [writeFault, List.filterMap_cons, h.log, filterMap_write h]

theorem filterMap_writeTurn (writes : Nat) (now : Instant) (record : Except Fault Record) :
    (agent.writeTurn writes now record).events.filterMap view = [] := by
  cases record with
  | error fault => rfl
  | ok record => exact filterMap_writeAll h agent writes _

/-- The deeds of a turn are those of its attempt. -/
theorem filterMap_turn (state : State σ γ) :
    (agent.turn state).events.filterMap view = (agent.attempt state).events.filterMap view := by
  have hwritten := filterMap_andThen (filterMap_writeFault h agent state.writes
    (agent.clock (state.tick + 1)) (agent.attempt state).attempt.fault?) fun writes =>
      filterMap_writeTurn h agent writes (agent.clock (state.tick + 1))
        ((agent.attempt state).attempt.record (state.tick + 1) (agent.clock (state.tick + 1)).text
          agent.profile.goal)
  simp only [turn, List.filterMap_append, hwritten, List.append_nil]

end Writing

theorem turn_attempt [Json.Nesting] (agent : Agent σ γ) (state : State σ γ) :
    (agent.turn state).attempt = (agent.attempt state).attempt := rfl

theorem turn_body [Json.Nesting] (agent : Agent σ γ) (state : State σ γ) :
    (agent.turn state).state.world = (agent.attempt state).world := rfl

/-! ## What is seen, heard and proposed -/

def Sees (agent : Agent σ γ) (state : State σ γ) (seen : Observation) : Prop :=
  (agent.body.observe state.world).result = .ok seen

/-- In a state, the agent sees something and has a prompt for its backend. -/
def Asks (agent : Agent σ γ) (state : State σ γ) (seen : Observation) (prompt : Prompt) : Prop :=
  agent.Sees state seen ∧ Prompt.make agent.profile state.book.texts seen = .ok prompt

def answerTo (agent : Agent σ γ) (state : State σ γ) (prompt : Prompt) : Outcome γ Reply :=
  agent.backend.generate state.backend prompt

def Hears (agent : Agent σ γ) (state : State σ γ) (reply : Reply) : Prop :=
  ∃ seen prompt, agent.Asks state seen prompt ∧ (agent.answerTo state prompt).result = .ok reply

/-- In a state, whatever reply the agent is given is a text or nothing. -/
def HearsWords (agent : Agent σ γ) (state : State σ γ) : Prop :=
  ∀ value, ¬ agent.Hears state (.other value)

def Proposes (agent : Agent σ γ) (state : State σ γ) (action : Action) : Prop :=
  ∃ reply, agent.Hears state reply ∧ reply.action? = .ok (some action)

/-- Where the body is left by being asked what it sees. -/
def looked (agent : Agent σ γ) (state : State σ γ) : σ :=
  (agent.body.observe state.world).state

/-! ## Attempts -/

variable {agent : Agent σ γ} {state : State σ γ}

theorem attempt_of_unseen {fault : Fault}
    (h : (agent.body.observe state.world).result = .error fault) :
    agent.attempt state = ⟨.unseen fault, agent.looked state, state.backend,
      .observe :: Event.notes (agent.body.observe state.world).logs⟩ := by
  simp [attempt, h, looked]

theorem attempt_of_unasked {seen : Observation} {fault : Fault} (hseen : agent.Sees state seen)
    (h : Prompt.make agent.profile state.book.texts seen = .error fault) :
    agent.attempt state = ⟨.unanswered seen fault, agent.looked state, state.backend,
      .observe :: Event.notes (agent.body.observe state.world).logs⟩ := by
  unfold Sees at hseen
  simp [attempt, hseen, h, looked]

theorem attempt_of_unanswered {seen : Observation} {prompt : Prompt} {fault : Fault}
    (hasks : agent.Asks state seen prompt)
    (h : (agent.answerTo state prompt).result = .error fault) :
    agent.attempt state = ⟨.unanswered seen fault, agent.looked state,
      (agent.answerTo state prompt).state,
      .observe :: Event.notes (agent.body.observe state.world).logs ++
        .generate prompt :: Event.notes (agent.answerTo state prompt).logs⟩ := by
  obtain ⟨hseen, hprompt⟩ := hasks
  unfold Sees at hseen
  unfold answerTo at h ⊢
  simp [attempt, hseen, hprompt, h, looked]

theorem attempt_of_heard {seen : Observation} {prompt : Prompt} {reply : Reply}
    (hasks : agent.Asks state seen prompt)
    (h : (agent.answerTo state prompt).result = .ok reply) :
    agent.attempt state =
      ⟨(agent.follow state.book (agent.looked state) seen reply).1,
        (agent.follow state.book (agent.looked state) seen reply).2.1,
        (agent.answerTo state prompt).state,
        .observe :: Event.notes (agent.body.observe state.world).logs ++
          .generate prompt :: Event.notes (agent.answerTo state prompt).logs ++
          (agent.follow state.book (agent.looked state) seen reply).2.2⟩ := by
  obtain ⟨hseen, hprompt⟩ := hasks
  unfold Sees at hseen
  unfold answerTo at h ⊢
  simp [attempt, hseen, hprompt, h, looked]

/-- An attempt sees nothing, has no prompt, is given no answer, or follows the one it is given. -/
theorem attempt_cases (agent : Agent σ γ) (state : State σ γ) :
    (∃ fault, (agent.body.observe state.world).result = .error fault) ∨
    (∃ seen fault, agent.Sees state seen ∧
      Prompt.make agent.profile state.book.texts seen = .error fault) ∨
    (∃ seen prompt fault, agent.Asks state seen prompt ∧
      (agent.answerTo state prompt).result = .error fault) ∨
    ∃ seen prompt reply, agent.Asks state seen prompt ∧
      (agent.answerTo state prompt).result = .ok reply := by
  cases hseen : (agent.body.observe state.world).result with
  | error fault => exact .inl ⟨fault, rfl⟩
  | ok seen =>
      cases hprompt : Prompt.make agent.profile state.book.texts seen with
      | error fault => exact .inr (.inl ⟨seen, fault, hseen, hprompt⟩)
      | ok prompt =>
          cases hanswer : (agent.answerTo state prompt).result with
          | error fault => exact .inr (.inr (.inl ⟨seen, prompt, fault, ⟨hseen, hprompt⟩, hanswer⟩))
          | ok reply => exact .inr (.inr (.inr ⟨seen, prompt, reply, ⟨hseen, hprompt⟩, hanswer⟩))

theorem exists_asks (h : ((agent.body.observe state.world).result >>=
    Prompt.make agent.profile state.book.texts).isOk = true) :
    ∃ seen prompt, agent.Asks state seen prompt := by
  cases hseen : (agent.body.observe state.world).result with
  | error fault => simp [hseen, Bind.bind, Except.bind, Except.isOk, Except.toBool] at h
  | ok seen =>
      cases hprompt : Prompt.make agent.profile state.book.texts seen with
      | error fault =>
          simp [hseen, hprompt, Bind.bind, Except.bind, Except.isOk, Except.toBool] at h
      | ok prompt => exact ⟨seen, prompt, hseen, hprompt⟩

theorem Asks.eq {seen other : Observation} {prompt otherPrompt : Prompt}
    (h : agent.Asks state seen prompt) (hother : agent.Asks state other otherPrompt) :
    seen = other ∧ prompt = otherPrompt := by
  have hseen : Except.ok seen = Except.ok other := h.1.symm.trans hother.1
  obtain rfl := Except.ok.inj hseen
  exact ⟨rfl, Except.ok.inj (h.2.symm.trans hother.2)⟩

/-- What an agent sees, hears and proposes in a state is settled by the state. -/
theorem Proposes.eq {action other : Action} (h : agent.Proposes state action)
    (hother : agent.Proposes state other) : action = other := by
  obtain ⟨reply, ⟨seen, prompt, hasks, hreply⟩, haction⟩ := h
  obtain ⟨reply', ⟨seen', prompt', hasks', hreply'⟩, hother⟩ := hother
  obtain ⟨-, rfl⟩ := hasks.eq hasks'
  obtain rfl := Except.ok.inj (hreply.symm.trans hreply')
  exact Option.some.inj (Except.ok.inj (haction.symm.trans hother))

/-- A proposal is weighed by the rules in the state, and acted upon where the body was left. -/
theorem Proposes.attempt {action : Action} (h : agent.Proposes state action) :
    ∃ seen reply, reply.action? = .ok (some action) ∧
      (agent.attempt state).attempt =
        (agent.act state.book (agent.looked state) seen reply action).1 ∧
      (agent.attempt state).world =
        (agent.act state.book (agent.looked state) seen reply action).2.1 ∧
      ∀ {β : Type} {view : Event → Option β}, Event.OfDeeds view →
        (agent.attempt state).events.filterMap view =
          (agent.act state.book (agent.looked state) seen reply action).2.2.filterMap view := by
  obtain ⟨reply, ⟨seen, prompt, hasks, hreply⟩, haction⟩ := h
  have hfollow : agent.follow state.book (agent.looked state) seen reply =
      agent.act state.book (agent.looked state) seen reply action := by
    simp [follow, haction]
  refine ⟨seen, reply, haction, ?_⟩
  rw [attempt_of_heard hasks hreply, hfollow]
  refine ⟨rfl, rfl, fun hview => ?_⟩
  simp [hview.observe, hview.generate, hview.filterMap_notes]

theorem attempt_of_no_proposal (h : ∀ action, ¬ agent.Proposes state action) :
    (agent.attempt state).world = agent.looked state ∧
      (agent.attempt state).attempt.action? = none ∧
      (agent.attempt state).attempt.violation? = none ∧
      ∀ {β : Type} {view : Event → Option β}, Event.OfDeeds view →
        (agent.attempt state).events.filterMap view = [] := by
  rcases attempt_cases agent state with ⟨fault, hunseen⟩ | ⟨seen, fault, hseen, hunasked⟩ |
    ⟨seen, prompt, fault, hasks, hunanswered⟩ | ⟨seen, prompt, reply, hasks, hheard⟩
  · rw [attempt_of_unseen hunseen]
    exact ⟨rfl, rfl, rfl, fun hview => by simp [hview.observe, hview.filterMap_notes]⟩
  · rw [attempt_of_unasked hseen hunasked]
    exact ⟨rfl, rfl, rfl, fun hview => by simp [hview.observe, hview.filterMap_notes]⟩
  · rw [attempt_of_unanswered hasks hunanswered]
    exact ⟨rfl, rfl, rfl, fun hview => by
      simp [hview.observe, hview.generate, hview.filterMap_notes]⟩
  · have hnone : ∀ action, reply.action? ≠ .ok (some action) := fun action haction =>
      h action ⟨reply, ⟨seen, prompt, hasks, hheard⟩, haction⟩
    rw [attempt_of_heard hasks hheard]
    unfold follow
    cases hread : reply.action? with
    | error fault =>
        exact ⟨rfl, rfl, rfl, fun hview => by
          simp [hview.observe, hview.generate, hview.filterMap_notes]⟩
    | ok action? =>
        cases action? with
        | none =>
            exact ⟨rfl, rfl, rfl, fun hview => by
              simp [hview.observe, hview.generate, hview.filterMap_notes]⟩
        | some action => exact absurd hread (hnone action)

theorem follow_reply? (agent : Agent σ γ) (book : RuleBook) (world : σ) (seen : Observation)
    (reply : Reply) : (agent.follow book world seen reply).1.reply? = some reply := by
  unfold follow
  cases reply.action? with
  | error fault => rfl
  | ok action? =>
      cases action? with
      | none => rfl
      | some action =>
          unfold act
          cases hjudge : book.judge action <;> simp [hjudge, Attempt.reply?]

/-- The reply that an attempt keeps is the one that was heard. -/
theorem attempt_reply?_iff {reply : Reply} :
    (agent.attempt state).attempt.reply? = some reply ↔ agent.Hears state reply := by
  constructor
  · intro h
    rcases attempt_cases agent state with ⟨fault, hunseen⟩ | ⟨seen, fault, hseen, hunasked⟩ |
      ⟨seen, prompt, fault, hasks, hunanswered⟩ | ⟨seen, prompt, heard, hasks, hheard⟩
    · rw [attempt_of_unseen hunseen] at h
      exact nomatch h
    · rw [attempt_of_unasked hseen hunasked] at h
      exact nomatch h
    · rw [attempt_of_unanswered hasks hunanswered] at h
      exact nomatch h
    · rw [attempt_of_heard hasks hheard, follow_reply?, Option.some.injEq] at h
      exact ⟨seen, prompt, hasks, h ▸ hheard⟩
  · rintro ⟨seen, prompt, hasks, hanswer⟩
    rw [attempt_of_heard hasks hanswer, follow_reply?]

theorem observation?_of_sees {seen : Observation} (h : agent.Sees state seen) :
    (agent.attempt state).attempt.observation? = some seen := by
  have hfollow : ∀ reply, (agent.follow state.book (agent.looked state) seen reply).1.observation? =
      some seen := by
    intro reply
    unfold follow
    cases reply.action? with
    | error fault => rfl
    | ok action? =>
        cases action? with
        | none => rfl
        | some action =>
            unfold act
            cases hjudge : state.book.judge action <;> simp [hjudge, Attempt.observation?]
  have hsame : ∀ other, agent.Sees state other → other = seen :=
    fun other hother => Except.ok.inj (hother.symm.trans h)
  rcases attempt_cases agent state with ⟨fault, hunseen⟩ | ⟨other, fault, hseen, hunasked⟩ |
    ⟨other, prompt, fault, hasks, hunanswered⟩ | ⟨other, prompt, reply, hasks, hheard⟩
  · exact nomatch hunseen.symm.trans h
  · obtain rfl := hsame other hseen
    rw [attempt_of_unasked hseen hunasked]
    rfl
  · obtain rfl := hsame other hasks.1
    rw [attempt_of_unanswered hasks hunanswered]
    rfl
  · obtain rfl := hsame other hasks.1
    rw [attempt_of_heard hasks hheard]
    exact hfollow reply

/-! ## Acting under the rules -/

theorem act_of_denied {book : RuleBook} {action : Action} {reason : String}
    (h : book.judge action = .denied reason) (agent : Agent σ γ) (world : σ) (seen : Observation)
    (reply : Reply) :
    (agent.act book world seen reply action).1 = .denied seen reply action reason ∧
      (agent.act book world seen reply action).2.1 = world ∧
      ∀ {β : Type} {view : Event → Option β}, Event.OfDeeds view →
        (agent.act book world seen reply action).2.2.filterMap view = [] := by
  unfold act
  rw [h]
  refine ⟨rfl, rfl, fun hview => ?_⟩
  simp [hview.log, hview.filterMap_notes]

theorem act_of_permitted {book : RuleBook} {action : Action} (h : book.judge action = .permitted)
    (agent : Agent σ γ) (world : σ) (seen : Observation) (reply : Reply) :
    (agent.act book world seen reply action).1 =
        .dispatched seen reply action (dispatch agent.body world action).ok ∧
      (agent.act book world seen reply action).2.1 = (dispatch agent.body world action).state ∧
      Event.dispatches (agent.act book world seen reply action).2.2 = [action] := by
  unfold act
  rw [h]
  refine ⟨rfl, rfl, ?_⟩
  have hcalls : (((dispatch agent.body world action).call?.toList.map .call).filterMap
      Event.dispatched?) = [] := by
    cases (dispatch agent.body world action).call? <;> rfl
  have hnotes := Event.ofDeeds_dispatched?.filterMap_notes
  simp only [Event.dispatches, List.cons_append, List.append_assoc, List.filterMap_cons,
    List.filterMap_append, hnotes, hcalls, Event.dispatched?, List.nil_append, List.append_nil]

theorem calls_of_permitted {book : RuleBook} {action : Action} (h : book.judge action = .permitted)
    (agent : Agent σ γ) (world : σ) (seen : Observation) (reply : Reply) :
    Event.calls (agent.act book world seen reply action).2.2 =
      (dispatch agent.body world action).call?.toList := by
  unfold act
  rw [h]
  have hnotes := Event.ofDeeds_call?.filterMap_notes
  have hcalls : ((dispatch agent.body world action).call?.toList.map Event.call).filterMap
      Event.call? = (dispatch agent.body world action).call?.toList := by
    cases (dispatch agent.body world action).call? <;> rfl
  simp only [Event.calls, List.cons_append, List.append_assoc, List.filterMap_cons,
    List.filterMap_append, hnotes, hcalls, Event.call?, List.nil_append, List.append_nil]

/-- A turn makes no call and leaves the body where it was left by looking, or it does what the
action comes to that is proposed in it and that the rules permit. -/
theorem turn_cases [Json.Nesting] (agent : Agent σ γ) (state : State σ γ) :
    (Event.calls (agent.turn state).events = [] ∧
      (agent.turn state).state.world = agent.looked state) ∨
    ∃ action, state.book.judge action = .permitted ∧
      (agent.turn state).attempt.action? = some action ∧
      Event.calls (agent.turn state).events =
        (dispatch agent.body (agent.looked state) action).call?.toList ∧
      (agent.turn state).state.world =
        (dispatch agent.body (agent.looked state) action).state := by
  have hcalls : Event.calls (agent.turn state).events =
      (agent.attempt state).events.filterMap Event.call? :=
    filterMap_turn Event.ofDeeds_call? agent state
  rw [hcalls, turn_attempt, turn_body]
  by_cases hsome : ∃ action, agent.Proposes state action
  · obtain ⟨action, hproposes⟩ := hsome
    obtain ⟨seen, reply, -, hattempt, hworld, hdeeds⟩ := hproposes.attempt
    rw [hattempt, hworld, hdeeds Event.ofDeeds_call?]
    cases hjudge : state.book.judge action with
    | denied reason =>
        obtain ⟨-, hkept, hnone⟩ := act_of_denied hjudge agent (agent.looked state) seen reply
        exact .inl ⟨hnone Event.ofDeeds_call?, hkept⟩
    | permitted =>
        obtain ⟨hdispatched, hdone, -⟩ :=
          act_of_permitted hjudge agent (agent.looked state) seen reply
        refine .inr ⟨action, hjudge, ?_, calls_of_permitted hjudge .., hdone⟩
        rw [hdispatched]
        rfl
  · obtain ⟨hworld, -, -, hnone⟩ := attempt_of_no_proposal fun action h => hsome ⟨action, h⟩
    exact .inl ⟨hnone Event.ofDeeds_call?, hworld⟩

/-! ## What no turn does -/

section Undone

variable {view : Event → Option β} (h : Event.OfDeeds view)
  (hdispatch : ∀ action, view (.dispatch action) = none) (hcall : ∀ call, view (.call call) = none)

include h hdispatch hcall

theorem filterMap_act_eq_nil (agent : Agent σ γ) (book : RuleBook) (world : σ)
    (seen : Observation) (reply : Reply) (action : Action) :
    (agent.act book world seen reply action).2.2.filterMap view = [] := by
  cases hjudge : book.judge action with
  | denied reason =>
      obtain ⟨-, -, hnone⟩ := act_of_denied hjudge agent world seen reply
      exact hnone h
  | permitted =>
      have hcalls : ((dispatch agent.body world action).call?.toList.map .call).filterMap
          view = [] := by
        cases (dispatch agent.body world action).call? with
        | none => rfl
        | some call => simp [hcall]
      simp [act, hjudge, h.log, h.filterMap_notes, hdispatch, hcalls]

/-- A view of events that sees no deed sees nothing of a turn. -/
theorem filterMap_turn_eq_nil [Json.Nesting] (agent : Agent σ γ) (state : State σ γ) :
    (agent.turn state).events.filterMap view = [] := by
  rw [filterMap_turn h]
  by_cases hsome : ∃ action, agent.Proposes state action
  · obtain ⟨action, hproposes⟩ := hsome
    obtain ⟨seen, reply, -, -, -, hdeeds⟩ := hproposes.attempt
    rw [hdeeds h, filterMap_act_eq_nil h hdispatch hcall]
  · obtain ⟨-, -, -, hnone⟩ := attempt_of_no_proposal fun action h => hsome ⟨action, h⟩
    exact hnone h

end Undone

/-! ## What is handed over -/

section Handed

variable [Json.Nesting]

theorem dispatches_turn (agent : Agent σ γ) (state : State σ γ) :
    Event.dispatches (agent.turn state).events = Event.dispatches (agent.attempt state).events :=
  filterMap_turn Event.ofDeeds_dispatched? agent state

theorem dispatches_of_no_proposal (h : ∀ action, ¬ agent.Proposes state action) :
    Event.dispatches (agent.turn state).events = [] := by
  obtain ⟨-, -, -, hdeeds⟩ := attempt_of_no_proposal h
  rw [dispatches_turn]
  exact hdeeds Event.ofDeeds_dispatched?

theorem dispatches_of_denied {action : Action} {reason : String}
    (hproposes : agent.Proposes state action) (h : state.book.judge action = .denied reason) :
    Event.dispatches (agent.turn state).events = [] := by
  obtain ⟨seen, reply, -, -, -, hdeeds⟩ := hproposes.attempt
  obtain ⟨-, -, hnone⟩ := act_of_denied h agent (agent.looked state) seen reply
  rw [dispatches_turn]
  exact (hdeeds Event.ofDeeds_dispatched?).trans (hnone Event.ofDeeds_dispatched?)

theorem dispatches_of_permitted {action : Action} (hproposes : agent.Proposes state action)
    (h : state.book.judge action = .permitted) :
    Event.dispatches (agent.turn state).events = [action] := by
  obtain ⟨seen, reply, -, -, -, hdeeds⟩ := hproposes.attempt
  obtain ⟨-, -, hone⟩ := act_of_permitted h agent (agent.looked state) seen reply
  rw [dispatches_turn]
  exact (hdeeds Event.ofDeeds_dispatched?).trans hone

/-- What a turn hands over is settled by what is proposed and how the rules judge it. -/
theorem dispatches_cases (agent : Agent σ γ) (state : State σ γ) :
    (∃ action, agent.Proposes state action ∧ state.book.judge action = .permitted ∧
      Event.dispatches (agent.turn state).events = [action]) ∨
    ((∀ action, agent.Proposes state action → state.book.judge action ≠ .permitted) ∧
      Event.dispatches (agent.turn state).events = []) := by
  by_cases hsome : ∃ action, agent.Proposes state action
  · obtain ⟨action, hproposes⟩ := hsome
    cases hjudge : state.book.judge action with
    | permitted => exact .inl ⟨action, hproposes, hjudge, dispatches_of_permitted hproposes hjudge⟩
    | denied reason =>
        refine .inr ⟨fun other hother => ?_, dispatches_of_denied hproposes hjudge⟩
        rw [hother.eq hproposes, hjudge]
        exact nofun
  · have hnone : ∀ action, ¬ agent.Proposes state action := fun action h => hsome ⟨action, h⟩
    exact .inr ⟨fun action h => absurd h (hnone action), dispatches_of_no_proposal hnone⟩

end Handed

end Cycle.Agent

/-! ## Records -/

namespace Cycle.Attempt

/-- A record holds what the attempt came to, and the answer as far as it can be recorded. -/
theorem exists_reasoning {attempt : Attempt} {tick : Int} {timestamp goal : String}
    {record : Record} (h : attempt.record tick timestamp goal = .ok record) :
    ∃ reasoning, attempt.reasoning = .good reasoning ∧
      record = ⟨tick, timestamp, goal, attempt.observation?, reasoning, attempt.action?,
        attempt.result, attempt.violation?⟩ := by
  unfold Attempt.record at h
  cases hreasoning : attempt.reasoning with
  | bad issues => simp [hreasoning, Checked.map, Checked.toExcept] at h
  | good reasoning =>
      simp only [hreasoning, Checked.map, Checked.toExcept, Except.ok.injEq] at h
      exact ⟨reasoning, rfl, h.symm⟩

/-- A record says what the attempt came to. -/
theorem record_eq_ok {attempt : Attempt} {tick : Int} {timestamp goal : String} {record : Record}
    (h : attempt.record tick timestamp goal = .ok record) :
    record.action = attempt.action? ∧ record.result = attempt.result ∧
      record.violation = attempt.violation? := by
  obtain ⟨reasoning, -, rfl⟩ := exists_reasoning h
  exact ⟨rfl, rfl, rfl⟩

theorem record_isOk {attempt : Attempt}
    (h : ∀ value, attempt.reply? ≠ some (.other value)) (tick : Int) (timestamp goal : String) :
    ∃ record, attempt.record tick timestamp goal = .ok record := by
  unfold Attempt.record Attempt.reasoning
  cases hreply : attempt.reply? with
  | none => exact ⟨_, rfl⟩
  | some reply =>
      cases reply with
      | text value => exact ⟨_, rfl⟩
      | nothing => exact ⟨_, rfl⟩
      | other value => exact absurd hreply (h value)

end Cycle.Attempt

namespace Cycle.Agent

section Recorded

variable {σ γ : Type} {agent : Agent σ γ} {state : State σ γ}

def recordOf (agent : Agent σ γ) (state : State σ γ) : Except Fault Record :=
  (agent.attempt state).attempt.record (state.tick + 1) (agent.clock (state.tick + 1)).text
    agent.profile.goal

def writtenOf [Json.Nesting] (agent : Agent σ γ) (state : State σ γ) : Written :=
  (agent.writeFault state.writes (agent.clock (state.tick + 1))
    (agent.attempt state).attempt.fault?).andThen
      (agent.writeTurn · (agent.clock (state.tick + 1)) (agent.recordOf state))

theorem turn_record [Json.Nesting] :
    (agent.turn state).record = (agent.writtenOf state).fault?.elim (agent.recordOf state) .error :=
  rfl

theorem turn_events [Json.Nesting] :
    (agent.turn state).events = (agent.attempt state).events ++ (agent.writtenOf state).events :=
  rfl

/-- A turn can be recorded whose reply, if there is one, is a text or nothing. -/
theorem exists_recordOf (h : agent.HearsWords state) :
    ∃ record, agent.recordOf state = .ok record :=
  Attempt.record_isOk (fun value hreply => h value (attempt_reply?_iff.1 hreply)) _ _ _

/-- A turn has a record exactly if it can be recorded and nothing ends its writing. -/
theorem turn_record_iff [Json.Nesting] {record : Record} :
    (agent.turn state).record = .ok record ↔
      agent.recordOf state = .ok record ∧ (agent.writtenOf state).fault? = none := by
  rw [turn_record]
  cases (agent.writtenOf state).fault? <;> simp

end Recorded

end Cycle.Agent

theorem Reply.text_of_proposal {reply : Reply} {action : Action}
    (h : reply.action? = .ok (some action)) : ∃ value, reply = .text value := by
  have hempty : Action.read? "" = none := rfl
  cases reply with
  | text value => exact ⟨value, rfl⟩
  | nothing => simp [action?, readable, Except.map, hempty] at h
  | other value =>
      by_cases htruthy : value.isTruthy = true <;>
        simp [action?, readable, Except.map, htruthy, hempty] at h

end Rulebound
