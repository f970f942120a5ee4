import Rulebound.Proofs.Phases
import Rulebound.Proofs.Sink

/-!
# What turns leave in a diary

The entries of a turn are its record, alone, or after the fault that the turn caught, or before what
was said in it. Turns leave their entries one after another, numbered from one on, and only a last
turn can be left without its record.
-/

namespace Rulebound

open Rulebound.Cycle

variable {σ γ : Type}

/-! ## Entries of one turn -/

namespace Backend

/-- The states that a backend comes to from a state by being waited for and by answering. -/
inductive Reaches (backend : Backend γ) (start : γ) : γ → Prop
  | start : Reaches backend start start
  | ready {state : γ} (h : Reaches backend start state) :
      Reaches backend start (backend.ready state).state
  | generate {state : γ} (h : Reaches backend start state) (prompt : Prompt) :
      Reaches backend start (backend.generate state prompt).state

/-- From a state on, whatever it is asked, the backend answers with a text or with nothing, or
reports a fault. -/
def AnswersInWords (backend : Backend γ) (start : γ) : Prop :=
  ∀ state, backend.Reaches start state → ∀ prompt value,
    (backend.generate state prompt).result ≠ .ok (.other value)

theorem Reaches.trans {backend : Backend γ} {first middle last : γ}
    (h : backend.Reaches first middle) (hlast : backend.Reaches middle last) :
    backend.Reaches first last := by
  induction hlast with
  | start => exact h
  | ready _ ih => exact ih.ready
  | generate _ prompt ih => exact ih.generate prompt

theorem AnswersInWords.of_reaches {backend : Backend γ} {first later : γ}
    (hwords : backend.AnswersInWords first) (h : backend.Reaches first later) :
    backend.AnswersInWords later :=
  fun state hstate => hwords state (h.trans hstate)

end Backend

theorem Script.answersInWords_ofTexts (texts : List String) :
    Script.backend.AnswersInWords (.ofTexts texts) := by
  have hanswers : ∀ state, Script.backend.Reaches (.ofTexts texts) state →
      state.answers = texts.map fun text => .ok (.text text) := by
    intro state hstate
    induction hstate with
    | start => rfl
    | ready _ ih => exact ih
    | generate _ prompt ih => exact ih
  intro state hstate prompt value hanswer
  have hat : answerAt (texts.map fun text => .ok (.text text)) state.prompts.length =
      .ok (.other value) := hanswers state hstate ▸ hanswer
  unfold answerAt at hat
  rw [List.getElem?_map] at hat
  cases hget : texts[state.prompts.length % (texts.map _).length]? with
  | none =>
      rw [hget] at hat
      exact nomatch hat
  | some text =>
      rw [hget] at hat
      exact nomatch hat

def Diary.Entry.IsEvent (entry : Diary.Entry) (name : String) (details : Json) : Prop :=
  ∃ time kind, entry = .event time kind details ∧ Text.upper kind = name

namespace Cycle

/-- By its record, a message was said in a turn. -/
def Record.Says (record : Record) (message : String) : Prop :=
  record.result.success = true ∧
    ∃ action, record.action = some action ∧ action.verb = "chat" ∧ action.raw = message

namespace Agent

variable {agent : Agent σ γ} {state : State σ γ}

/-- In a state, looking or asking comes to a fault. -/
inductive Catches (agent : Agent σ γ) (state : State σ γ) (fault : Fault) : Prop
  | looking (h : (agent.body.observe state.world).result = .error fault)
  | asking {seen : Observation} (h : agent.Lacks state seen fault)

section Blocks

variable [Json.Nesting]

/-- The entries of the turn that begins in a state: its record alone, or after the fault that it
caught, or before what was said in it. -/
inductive Block (agent : Agent σ γ) (state : State σ γ) : List Diary.Entry → Prop
  | silent {record : Record} (hrecord : (agent.turn state).record = .ok record)
      (htick : record.tick = state.tick + 1) (hcalm : ∀ fault, ¬ agent.Catches state fault)
      (hsilent : ∀ message, ¬ record.Says message) :
      Block agent state [.cycle record]
  | caught {record : Record} {time : Instant} {fault : Fault}
      (hrecord : (agent.turn state).record = .ok record) (htick : record.tick = state.tick + 1)
      (hcaught : agent.Catches state fault) (hsilent : ∀ message, ¬ record.Says message) :
      Block agent state [.error time "Decision loop error" fault, .cycle record]
  | spoken {record : Record} {message : String} {event : Diary.Entry}
      (hrecord : (agent.turn state).record = .ok record) (htick : record.tick = state.tick + 1)
      (hcalm : ∀ fault, ¬ agent.Catches state fault) (hsaid : record.Says message)
      (hevent : event.IsEvent "CHAT"
        (.object [("from", .string agent.profile.name), ("message", .string message)])) :
      Block agent state [.cycle record, event]

/-- The entries of a turn that cannot be written and is left without its record: at most the fault
that it caught. -/
inductive Lost (agent : Agent σ γ) (state : State σ γ) : List Diary.Entry → Prop
  | silent {fault : Fault} (hrecord : (agent.turn state).record = .error fault)
      (hlong : ¬ (agent.turn state).IsCountable) (hcalm : ∀ fault, ¬ agent.Catches state fault) :
      Lost agent state []
  | caught {fault other : Fault} {time : Instant}
      (hrecord : (agent.turn state).record = .error fault)
      (hlong : ¬ (agent.turn state).IsCountable) (hcaught : agent.Catches state other) :
      Lost agent state [.error time "Decision loop error" other]

/-- The entries of turns one after another, the first of which comes after so many others. Only the
last of them can be left without its record. -/
inductive Blocks (agent : Agent σ γ) : Int → List (Turn σ γ) → List Diary.Entry → Prop
  | nil {tick : Int} : Blocks agent tick [] []
  | last {state : State σ γ} {tick : Int} {block : List Diary.Entry} (htick : state.tick = tick)
      (hlost : agent.Lost state block) : Blocks agent tick [agent.turn state] block
  | cons {state : State σ γ} {tick : Int} {turns : List (Turn σ γ)}
      {block rest : List Diary.Entry} (htick : state.tick = tick) (hblock : agent.Block state block)
      (hrest : Blocks agent (tick + 1) turns rest) :
      Blocks agent tick (agent.turn state :: turns) (block ++ rest)

end Blocks

theorem hearsWords_of_answersInWords (h : agent.backend.AnswersInWords state.backend) :
    agent.HearsWords state := by
  rintro value ⟨seen, prompt, -, hanswer⟩
  exact h state.backend .start prompt value hanswer

/-- In a turn, the backend is asked at most once. -/
theorem reaches_turn [Json.Nesting] (agent : Agent σ γ) (state : State σ γ) :
    agent.backend.Reaches state.backend (agent.turn state).state.backend := by
  have hbackend : (agent.turn state).state.backend = (agent.attempt state).backend := rfl
  rw [hbackend]
  rcases attempt_cases agent state with ⟨fault, hunseen⟩ | ⟨seen, fault, hseen, hunasked⟩ |
    ⟨seen, prompt, fault, hasks, hunanswered⟩ | ⟨seen, prompt, reply, hasks, hheard⟩
  · rw [attempt_of_unseen hunseen]
    exact .start
  · rw [attempt_of_unasked hseen hunasked]
    exact .start
  · rw [attempt_of_unanswered hasks hunanswered]
    exact .generate .start prompt
  · rw [attempt_of_heard hasks hheard]
    exact .generate .start prompt

theorem spoken?_eq_some_iff {record : Record} {message : String} :
    spoken? record = some message ↔ record.Says message := by
  unfold spoken? Record.Says
  cases record.action with
  | none => simp
  | some action => grind

theorem spoken?_eq_none {record : Record} (h : spoken? record = none) (message : String) :
    ¬ record.Says message := by
  rw [← spoken?_eq_some_iff, h]
  exact nofun

theorem fault?_eq_some_iff (h : agent.HearsWords state) {fault : Fault} :
    (agent.attempt state).attempt.fault? = some fault ↔ agent.Catches state fault := by
  constructor
  · intro hfault
    cases hattempt : (agent.attempt state).attempt with
    | unseen other =>
        rw [hattempt] at hfault
        obtain rfl := Option.some.inj hfault
        exact .looking (attempt_eq_iff.1 hattempt)
    | unanswered seen other =>
        rw [hattempt] at hfault
        obtain rfl := Option.some.inj hfault
        exact .asking (attempt_eq_iff.1 hattempt)
    | unreadable seen reply other =>
        obtain ⟨hanswers, hread⟩ := attempt_eq_iff.1 hattempt
        exact absurd hread (readable_of_words h hanswers other)
    | _ =>
        rw [hattempt] at hfault
        exact nomatch hfault
  · rintro (hlooking | hasking)
    · rw [attempt_of_unseen hlooking]
      rfl
    · rw [attempt_eq_iff.2 (show agent.LeadsTo state (.unanswered _ fault) from hasking)]
      rfl

theorem action?_of_fault {attempt : Attempt} {fault : Fault} (h : attempt.fault? = some fault) :
    attempt.action? = none := by
  cases attempt with
  | unseen | unanswered | unreadable | unparsed => rfl
  | denied | dispatched => exact nomatch h

section Due

variable [Json.Nesting]

theorem block_due (h : agent.HearsWords state) {record : Record}
    (hrecord : (agent.turn state).record = .ok record) :
    agent.Block state (agent.due (agent.turn state)) := by
  obtain ⟨reasoning, -, hfields⟩ := Attempt.exists_reasoning (turn_record_iff.1 hrecord).1
  have htick : record.tick = state.tick + 1 := by rw [hfields]
  have haction : record.action = (agent.attempt state).attempt.action? := by rw [hfields]
  unfold due entriesOf
  rw [hrecord, turn_attempt]
  dsimp only
  cases hfault : (agent.attempt state).attempt.fault? with
  | some fault =>
      have hnone : spoken? record = none := by
        unfold spoken?
        rw [haction, action?_of_fault hfault]
      rw [hnone]
      exact .caught hrecord htick ((fault?_eq_some_iff h).1 hfault) (spoken?_eq_none hnone)
  | none =>
      have hcalm : ∀ fault, ¬ agent.Catches state fault := by
        intro fault hcaught
        rw [(fault?_eq_some_iff h).2 hcaught] at hfault
        exact nomatch hfault
      cases hspoken : spoken? record with
      | none => exact .silent hrecord htick hcalm (spoken?_eq_none hspoken)
      | some message =>
          exact .spoken hrecord htick hcalm (spoken?_eq_some_iff.1 hspoken)
            ⟨_, "chat", rfl, by decide⟩

theorem lost_due (h : agent.HearsWords state) {fault : Fault}
    (hrecord : (agent.turn state).record = .error fault) :
    agent.Lost state (agent.due (agent.turn state)) := by
  have hlong : ¬ (agent.turn state).IsCountable := by
    intro hcount
    obtain ⟨record, hmade⟩ := exists_record h (.inr hcount)
    exact nomatch hrecord.symm.trans hmade
  unfold due
  rw [hrecord, turn_attempt]
  dsimp only
  cases hfault : (agent.attempt state).attempt.fault? with
  | some other => exact .caught hrecord hlong ((fault?_eq_some_iff h).1 hfault)
  | none =>
      refine .silent hrecord hlong fun other hcaught => ?_
      rw [(fault?_eq_some_iff h).2 hcaught] at hfault
      exact nomatch hfault

end Due

/-! ## Entries of a course -/

theorem reach_keeps (conditions : Conditions) (turn : Turn σ γ) (done : Nat) (trace : List Event) :
    (conditions.reach turn done trace).state.tick = turn.state.tick ∧
      (conditions.reach turn done trace).state.backend = turn.state.backend := by
  unfold Conditions.reach
  cases turn.record with
  | error fault => exact ⟨rfl, rfl⟩
  | ok record =>
      cases hobjection : conditions.objection done record with
      | some fault => simp [hobjection]
      | none => simp [hobjection]

section Courses

variable [Json.Nesting]

theorem courseFrom_tick (agent : Agent σ γ) (conditions : Conditions) (limit : Nat)
    (state : State σ γ) (done : Nat) (trace : List Event) :
    (agent.courseFrom conditions limit state done trace).state.tick =
      state.tick + (agent.courseFrom conditions limit state done trace).turns.length := by
  induction limit generalizing state done trace with
  | zero => simp [courseFrom]
  | succ limit ih =>
      have htick : (conditions.reach (agent.turn state) (done + 1) trace).state.tick =
          state.tick + 1 := (reach_keeps conditions (agent.turn state) (done + 1) trace).1
      unfold courseFrom
      dsimp only
      cases (conditions.reach (agent.turn state) (done + 1) trace).ending? with
      | some ending => exact htick
      | none =>
          dsimp only
          rw [ih, htick, List.length_cons]
          omega

theorem courseFrom_blocks (agent : Agent σ γ) (conditions : Conditions) (limit : Nat)
    {state : State σ γ} (h : agent.backend.AnswersInWords state.backend) (done : Nat)
    (trace : List Event) :
    agent.Blocks state.tick (agent.courseFrom conditions limit state done trace).turns
      ((agent.courseFrom conditions limit state done trace).turns.flatMap agent.due) := by
  induction limit generalizing state done trace with
  | zero => exact .nil
  | succ limit ih =>
      have hwords := hearsWords_of_answersInWords h
      obtain ⟨htick, hbackend⟩ :=
        reach_keeps conditions (agent.turn state) (done + 1) trace
      have hlater : agent.backend.AnswersInWords
          (conditions.reach (agent.turn state) (done + 1) trace).state.backend :=
        hbackend ▸ h.of_reaches (reaches_turn agent state)
      unfold courseFrom
      dsimp only
      cases hending : (conditions.reach (agent.turn state) (done + 1) trace).ending? with
      | some ending =>
          cases hrecord : (agent.turn state).record with
          | ok record => exact .cons rfl (block_due hwords hrecord) .nil
          | error fault =>
              rw [List.flatMap_singleton]
              exact .last rfl (lost_due hwords hrecord)
      | none =>
          obtain ⟨record, hrecord⟩ := recorded_of_reach hending
          have hrest := ih hlater (done + 1)
            (conditions.reach (agent.turn state) (done + 1) trace).trace
          rw [htick] at hrest
          exact .cons rfl (block_due hwords hrecord) hrest

/-- Where no writing is held up, what a course leaves is what its turns leave, one after another. -/
theorem course_blocks {path : Path} (hdiary : agent.diary? = some path)
    (hkept : ∀ writes, agent.hitch? writes = none)
    (hwords : agent.backend.AnswersInWords state.backend) (conditions : Conditions) (limit : Nat)
    (before : List Event) :
    ∃ entries, agent.Blocks state.tick (agent.course conditions limit state before).turns entries ∧
      Event.entries (agent.course conditions limit state before).trace =
        Event.entries before ++ entries ∧
      (agent.course conditions limit state before).state.tick =
        state.tick + (agent.course conditions limit state before).turns.length := by
  obtain ⟨after, lost, htrace, hwritten, hlost, -⟩ :=
    course_writes hdiary conditions limit state before
  refine ⟨(agent.course conditions limit state before).turns.flatMap agent.due, ?_, ?_, ?_⟩
  · unfold course
    split
    · exact .nil
    · exact courseFrom_blocks agent conditions limit hwords 0 before
  · have happend : Event.entries (before ++ after) = Event.entries before ++ Event.entries after :=
      List.filterMap_append
    have hnone : lost.filter (·.2) = [] :=
      List.filter_eq_nil_iff.2 fun written hmem => by simp [hlost written hmem]
    rw [htrace, happend, Event.entries_eq_writes after, hwritten, List.filter_append, hnone,
      List.append_nil, kept_marked hkept]
  · unfold course
    split
    · simp
    · exact courseFrom_tick agent conditions limit state 0 before

end Courses

end Agent

end Cycle

end Rulebound
