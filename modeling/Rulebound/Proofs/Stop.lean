import Rulebound.Proofs.Session
import Rulebound.Proofs.Survival

/-!
# When a course stops

A course takes one turn after another until enough were taken, until it is asked to stop, or until
a fault ends it. What has happened when a turn begins is told by the turns before it, and by then
the course was not asked to stop. So at whatever moment it is asked to, the turn that has begun is
completed and its record is handed over, and no other turn begins.
-/

namespace Rulebound

/-! ## Work and idleness -/

namespace Event

/-- Whether something is asked of the body or the backend, or is handed over to be done. -/
def isWork : Event → Bool
  | observe | generate _ | dispatch _ | call _ => true
  | _ => false

/-- Whether an event is a delay or something that is noted. -/
def isIdle : Event → Bool
  | log _ | pause => true
  | _ => false

def work (events : List Event) : List Event :=
  events.filter isWork

theorem work_append (first later : List Event) : work (first ++ later) = work first ++ work later :=
  List.filter_append ..

theorem records_append (first later : List Event) :
    records (first ++ later) = records first ++ records later :=
  List.filterMap_append

theorem work_of_isIdle {events : List Event} (h : ∀ event ∈ events, event.isIdle = true) :
    work events = [] := by
  refine List.filter_eq_nil_iff.2 fun event hevent => ?_
  have hidle := h event hevent
  cases event <;> simp_all [isIdle, isWork]

theorem records_of_isIdle {events : List Event} (h : ∀ event ∈ events, event.isIdle = true) :
    records events = [] := by
  refine List.filterMap_eq_nil_iff.2 fun event hevent => ?_
  have hidle := h event hevent
  cases event <;> simp_all [isIdle, record?]

theorem isIdle_notes (logs : List Log.Line) : ∀ event ∈ notes logs, event.isIdle = true := by
  intro event hevent
  obtain ⟨line, -, rfl⟩ := List.mem_map.1 hevent
  rfl

theorem ofDeeds_record? : OfDeeds record? :=
  ⟨fun _ => rfl, fun _ _ => rfl, rfl, fun _ => rfl⟩

end Event

namespace Cycle

variable {σ γ : Type}

/-! ## After a turn -/

/-- What happens after a turn, before another begins. A turn without a record is followed by
nothing. Otherwise its record is handed over, and then there are only delays and notes. -/
inductive Turn.IsFollowedBy (turn : Turn σ γ) : List Event → Prop
  | lost {fault : Fault} (h : turn.record = .error fault) : IsFollowedBy turn []
  | handed {record : Record} {rest : List Event} (h : turn.record = .ok record)
      (hidle : ∀ event ∈ rest, event.isIdle = true) : IsFollowedBy turn (.hand record :: rest)

theorem Turn.IsFollowedBy.work {turn : Turn σ γ} {after : List Event}
    (h : turn.IsFollowedBy after) : Event.work after = [] := by
  cases h with
  | lost _ => rfl
  | @handed record rest _ hidle =>
      have hrest : Event.work rest = [] := Event.work_of_isIdle hidle
      exact hrest

theorem Turn.IsFollowedBy.records {turn : Turn σ γ} {after : List Event}
    (h : turn.IsFollowedBy after) : Event.records after = turn.record.toOption.toList := by
  cases h with
  | lost hrecord =>
      rw [hrecord]
      rfl
  | @handed record rest hrecord hidle =>
      rw [hrecord]
      exact congrArg (record :: ·) (Event.records_of_isIdle hidle)

namespace Conditions

/-- Why a course ends after a turn, given how many turns there were with this one, and what has
happened by then. -/
inductive EndsWith (conditions : Conditions) (turn : Turn σ γ) (done : Nat) (trace : List Event) :
    Ending → Prop
  | enough (h : conditions.isEnough done = true) : EndsWith conditions turn done trace .finished
  | stopped (h : conditions.isStopped trace = true) : EndsWith conditions turn done trace .stopped
  | lost {fault : Fault} (h : turn.record = .error fault) :
      EndsWith conditions turn done trace (.faulted fault)
  | objected {record : Record} {fault : Fault} (hrecord : turn.record = .ok record)
      (h : conditions.objection done record = some fault) :
      EndsWith conditions turn done trace (.faulted fault)
  | delay {fault : Fault} (h : conditions.delayFault? = some fault) :
      EndsWith conditions turn done trace (.faulted fault)

/-- Without an end, waiting comes to a moment at which a turn is due. -/
theorem wait_cases (conditions : Conditions) (turn : Turn σ γ) (done : Nat) (trace : List Event) :
    ((conditions.wait done trace).2 = none ∧ conditions.isEnough done = false ∧
      conditions.isStopped (conditions.wait done trace).1 = false) ∨
    ∃ ending, (conditions.wait done trace).2 = some ending ∧
      conditions.EndsWith turn done (conditions.wait done trace).1 ending := by
  unfold wait
  cases henough : conditions.isEnough done with
  | true => exact .inr ⟨.finished, rfl, .enough henough⟩
  | false =>
      cases hstopped : conditions.isStopped trace with
      | true => exact .inr ⟨.stopped, rfl, .stopped hstopped⟩
      | false =>
          cases hdelay : conditions.delayFault? with
          | some fault => exact .inr ⟨.faulted fault, rfl, .delay hdelay⟩
          | none =>
              cases hwaited : conditions.isStopped (trace ++ [.pause]) with
              | true => exact .inr ⟨.stopped, by simp [hwaited], .stopped (by simpa using hwaited)⟩
              | false => exact .inl (by simp [hwaited])

theorem reach_followed (conditions : Conditions) (turn : Turn σ γ) (done : Nat)
    (trace : List Event) :
    ∃ after, (conditions.reach turn done trace).trace = trace ++ turn.events ++ after ∧
      turn.IsFollowedBy after := by
  unfold reach
  cases hrecord : turn.record with
  | error fault => exact ⟨[], by simp, .lost hrecord⟩
  | ok record =>
      cases hobjection : conditions.objection done record with
      | some fault =>
          refine ⟨[.hand record], ?_, .handed hrecord (List.forall_mem_nil _)⟩
          simp only [hobjection]
      | none =>
          simp only [hobjection]
          generalize (applyEdits turn.state.book (conditions.edits done)).2 = logs
          have hnotes : ∀ event ∈ Event.notes logs, event.isIdle = true := Event.isIdle_notes logs
          rcases Agent.wait_trace conditions done
            (trace ++ turn.events ++ [.hand record] ++ Event.notes logs) with hsame | hpause
          · refine ⟨.hand record :: Event.notes logs, ?_, .handed hrecord hnotes⟩
            exact hsame.trans (by simp)
          · refine ⟨.hand record :: (Event.notes logs ++ [.pause]), ?_, .handed hrecord ?_⟩
            · exact hpause.trans (by simp)
            · exact List.forall_mem_append.2 ⟨hnotes, List.forall_mem_singleton.2 rfl⟩

/-- A turn is recorded, more turns are wanted, and the course is not asked to stop; or the course
ends with it. -/
theorem reach_cases (conditions : Conditions) (turn : Turn σ γ) (done : Nat) (trace : List Event) :
    ((conditions.reach turn done trace).ending? = none ∧ (∃ record, turn.record = .ok record) ∧
      conditions.isEnough done = false ∧
      conditions.isStopped (conditions.reach turn done trace).trace = false) ∨
    ∃ ending, (conditions.reach turn done trace).ending? = some ending ∧
      conditions.EndsWith turn done (conditions.reach turn done trace).trace ending := by
  unfold reach
  cases hrecord : turn.record with
  | error fault => exact .inr ⟨.faulted fault, rfl, .lost hrecord⟩
  | ok record =>
      cases hobjection : conditions.objection done record with
      | some fault =>
          simp only [hobjection]
          exact .inr ⟨.faulted fault, rfl, .objected hrecord hobjection⟩
      | none =>
          simp only [hobjection]
          rcases conditions.wait_cases turn done (trace ++ turn.events ++ [.hand record] ++
            Event.notes (applyEdits turn.state.book (conditions.edits done)).2) with
            ⟨hnone, henough, hstopped⟩ | hending
          · exact .inl ⟨hnone, ⟨record, rfl⟩, henough, hstopped⟩
          · exact .inr hending

section Cases

variable {conditions : Conditions} {turn : Turn σ γ} {done : Nat} {trace : List Event}

theorem going_on (h : (conditions.reach turn done trace).ending? = none) :
    (∃ record, turn.record = .ok record) ∧ conditions.isEnough done = false ∧
      conditions.isStopped (conditions.reach turn done trace).trace = false := by
  rcases conditions.reach_cases turn done trace with ⟨-, hfacts⟩ | ⟨ending, hending, -⟩
  · exact hfacts
  · rw [h] at hending
    exact nomatch hending

theorem endsWith {ending : Ending}
    (h : (conditions.reach turn done trace).ending? = some ending) :
    conditions.EndsWith turn done (conditions.reach turn done trace).trace ending := by
  rcases conditions.reach_cases turn done trace with ⟨hnone, -⟩ | ⟨found, hending, hends⟩
  · rw [h] at hnone
    exact nomatch hnone
  · rw [h, Option.some.injEq] at hending
    exact hending ▸ hends

end Cases

end Conditions

namespace Agent

/-! ## What happens before a turn -/

section Places

variable [Json.Nesting] (agent : Agent σ γ) (conditions : Conditions) (start : State σ γ)
  (before : List Event)

def turnAt (place : Nat) : Turn σ γ :=
  agent.turn (agent.stateAt conditions.edits start place)

def traceAt : Nat → List Event
  | 0 => before
  | place + 1 =>
      (conditions.reach (agent.turnAt conditions start place) (place + 1) (traceAt place)).trace

def reachedAt (place : Nat) : Reached σ γ :=
  conditions.reach (agent.turnAt conditions start place) (place + 1)
    (agent.traceAt conditions start before place)

theorem traceAt_succ (place : Nat) :
    ∃ after, agent.traceAt conditions start before (place + 1) =
        agent.traceAt conditions start before place ++
          (agent.turnAt conditions start place).events ++ after ∧
      (agent.turnAt conditions start place).IsFollowedBy after :=
  conditions.reach_followed _ _ _

theorem traceAt_prefix {place last : Nat} (h : place ≤ last) :
    agent.traceAt conditions start before place <+: agent.traceAt conditions start before last := by
  induction last, h using Nat.le_induction with
  | base => exact List.prefix_refl _
  | succ last _ ih =>
      obtain ⟨after, hafter, -⟩ := agent.traceAt_succ conditions start before last
      rw [hafter, List.append_assoc]
      exact ih.trans (List.prefix_append _ _)

/-- No record is handed over in a turn. -/
theorem records_turn (state : State σ γ) : Event.records (agent.turn state).events = [] :=
  filterMap_turn_eq_nil Event.ofDeeds_record? (fun _ => rfl) (fun _ => rfl) agent state

theorem records_traceAt (last : Nat) :
    Event.records (agent.traceAt conditions start before last) = Event.records before ++
      (List.range last).filterMap fun place =>
        (agent.turnAt conditions start place).record.toOption := by
  induction last with
  | zero => exact (List.append_nil _).symm
  | succ last ih =>
      obtain ⟨after, hafter, hfollowed⟩ := agent.traceAt_succ conditions start before last
      have hturn : Event.records (agent.turnAt conditions start last).events = [] :=
        agent.records_turn _
      rw [hafter, Event.records_append, Event.records_append, ih, hturn, hfollowed.records,
        List.append_nil, List.append_assoc, List.range_succ, List.filterMap_append]
      cases hrecord : (agent.turnAt conditions start last).record <;>
        simp [hrecord, Except.toOption]

theorem records_drop_traceAt (last : Nat) :
    Event.records ((agent.traceAt conditions start before last).drop before.length) =
      (List.range last).filterMap fun place =>
        (agent.turnAt conditions start place).record.toOption := by
  have hrecords := agent.records_traceAt conditions start before last
  obtain ⟨after, hafter⟩ := agent.traceAt_prefix conditions start before (Nat.zero_le last)
  have hbefore : agent.traceAt conditions start before 0 = before := rfl
  rw [← hafter, Event.records_append, hbefore] at hrecords
  rw [← hafter, hbefore, List.drop_left]
  exact List.append_cancel_left hrecords

/-- The record of a turn is handed over as soon as the turn is over. -/
theorem traceAt_handed {place last : Nat} (h : place < last) {record : Record}
    (hrecord : (agent.turnAt conditions start place).record = .ok record) :
    ∃ rest, agent.traceAt conditions start before last =
      agent.traceAt conditions start before place ++
        (agent.turnAt conditions start place).events ++ .hand record :: rest := by
  obtain ⟨after, hafter, hfollowed⟩ := agent.traceAt_succ conditions start before place
  obtain ⟨later, hlater⟩ := agent.traceAt_prefix conditions start before h
  cases hfollowed with
  | lost hlost => exact nomatch hrecord.symm.trans hlost
  | @handed found rest hfound _ =>
      obtain rfl := Except.ok.inj (hrecord.symm.trans hfound)
      refine ⟨rest ++ later, ?_⟩
      rw [← hlater, hafter]
      simp

theorem stateAt_tick (edits : Nat → List RuleEdit) (place : Nat) :
    (agent.stateAt edits start place).tick = start.tick + place := by
  induction place with
  | zero => exact (Int.add_zero _).symm
  | succ place ih =>
      have hnext : (agent.stateAt edits start (place + 1)).tick =
          (agent.stateAt edits start place).tick + 1 := rfl
      rw [hnext, ih, Int.add_assoc]
      rfl

/-! ## From turn to turn -/

/-- Where a course goes to from a turn that is due, and how it ends there, if at most `limit` turns
are looked at. -/
inductive GoesTo : Nat → Nat → Nat → Ending → Prop
  | unfinished {place : Nat} : GoesTo 0 place place .unfinished
  | ended {limit place : Nat} {ending : Ending}
      (h : (agent.reachedAt conditions start before place).ending? = some ending) :
      GoesTo (limit + 1) place (place + 1) ending
  | further {limit place last : Nat} {ending : Ending}
      (h : (agent.reachedAt conditions start before place).ending? = none)
      (hrest : GoesTo limit (place + 1) last ending) : GoesTo (limit + 1) place last ending

/-- The course from a turn that is due. -/
def courseAt (limit place : Nat) : Course σ γ :=
  agent.courseFrom conditions limit (agent.stateAt conditions.edits start place) place
    (agent.traceAt conditions start before place)

variable {agent conditions start before} {limit place last : Nat} {ending : Ending}

theorem courseAt_of_ending
    (h : (agent.reachedAt conditions start before place).ending? = some ending) :
    agent.courseAt conditions start before (limit + 1) place =
      ⟨(agent.reachedAt conditions start before place).state, [agent.turnAt conditions start place],
        agent.traceAt conditions start before (place + 1), ending⟩ := by
  unfold reachedAt turnAt at h
  simp only [courseAt, courseFrom, h]
  rfl

theorem courseAt_of_none (h : (agent.reachedAt conditions start before place).ending? = none) :
    agent.courseAt conditions start before (limit + 1) place =
      { agent.courseAt conditions start before limit (place + 1) with
        turns := agent.turnAt conditions start place ::
          (agent.courseAt conditions start before limit (place + 1)).turns } := by
  unfold reachedAt turnAt at h
  simp only [courseAt, courseFrom, h]
  rw [reach_state h]
  rfl

theorem courseAt_goesTo (agent : Agent σ γ) (conditions : Conditions) (start : State σ γ)
    (before : List Event) (limit place : Nat) :
    agent.GoesTo conditions start before limit place
        (place + (agent.courseAt conditions start before limit place).turns.length)
        (agent.courseAt conditions start before limit place).ending ∧
      (agent.courseAt conditions start before limit place).trace =
        agent.traceAt conditions start before
          (place + (agent.courseAt conditions start before limit place).turns.length) := by
  induction limit generalizing place with
  | zero => exact ⟨.unfinished, rfl⟩
  | succ limit ih =>
      cases hending : (agent.reachedAt conditions start before place).ending? with
      | some ending =>
          rw [courseAt_of_ending hending]
          exact ⟨.ended hending, rfl⟩
      | none =>
          obtain ⟨hgoes, htrace⟩ := ih (place + 1)
          rw [courseAt_of_none hending, List.length_cons, ← Nat.add_assoc,
            Nat.add_right_comm place]
          exact ⟨.further hending hgoes, htrace⟩

namespace GoesTo

theorem going_on (h : agent.GoesTo conditions start before limit place last ending) {later : Nat}
    (hplace : place ≤ later) (hlast : later + 1 < last) :
    (∃ record, (agent.turnAt conditions start later).record = .ok record) ∧
      conditions.isEnough (later + 1) = false ∧
      conditions.isStopped (agent.traceAt conditions start before (later + 1)) = false := by
  induction h with
  | unfinished => omega
  | ended _ => omega
  | further hnone _ ih =>
      rcases Nat.eq_or_lt_of_le hplace with rfl | hrest
      · exact Conditions.going_on hnone
      · exact ih hrest hlast

theorem endsWith (h : agent.GoesTo conditions start before limit place last ending) :
    (ending = .unfinished ∧ last = place + limit) ∨
    ∃ final, last = final + 1 ∧ conditions.EndsWith (agent.turnAt conditions start final) last
      (agent.traceAt conditions start before last) ending := by
  induction h with
  | unfinished => exact .inl ⟨rfl, rfl⟩
  | ended hsome => exact .inr ⟨_, rfl, Conditions.endsWith hsome⟩
  | further _ _ ih =>
      rcases ih with ⟨hunfinished, hlast⟩ | hends
      · exact .inl ⟨hunfinished, by omega⟩
      · exact .inr hends

/-- A turn that begins after one that was due does so when the course is not asked to stop. -/
theorem unstopped (h : agent.GoesTo conditions start before limit place last ending)
    (hdue : conditions.isStopped (agent.traceAt conditions start before place) = false)
    {later : Nat} (hplace : place ≤ later) (hlast : later < last) :
    conditions.isStopped (agent.traceAt conditions start before later) = false := by
  rcases Nat.eq_or_lt_of_le hplace with rfl | hafter
  · exact hdue
  · obtain ⟨earlier, rfl⟩ := Nat.exists_eq_add_one_of_ne_zero (Nat.ne_zero_of_lt hafter)
    obtain ⟨-, -, hunstopped⟩ := h.going_on (Nat.le_of_lt_succ hafter) hlast
    exact hunstopped

/-- No turn begins once enough were taken. -/
theorem le_enough (h : agent.GoesTo conditions start before limit place last ending) {enough : Int}
    (hturns : conditions.turns = some enough) (hdue : (place : Int) < enough) :
    (last : Int) ≤ enough := by
  by_cases hone : last ≤ place + 1
  · omega
  · obtain ⟨earlier, rfl⟩ : ∃ earlier, last = earlier + 2 := ⟨last - 2, by omega⟩
    have hplace : place ≤ earlier := by omega
    obtain ⟨-, henough, -⟩ := h.going_on hplace (Nat.lt_succ_self _)
    simp only [Conditions.isEnough, hturns, decide_eq_false_iff_not] at henough
    omega

end GoesTo

/-! ## Courses as a whole -/

theorem course_cases (agent : Agent σ γ) (conditions : Conditions) (limit : Nat)
    (start : State σ γ) (before : List Event) :
    (conditions.isStopped before = true ∧
      agent.course conditions limit start before = ⟨start, [], before, .stopped⟩) ∨
    (conditions.isStopped before = false ∧
      agent.course conditions limit start before =
        agent.courseAt conditions start before limit 0) := by
  unfold course
  cases hstopped : conditions.isStopped before with
  | true => exact .inl ⟨rfl, rfl⟩
  | false => exact .inr ⟨rfl, rfl⟩

/-- A course takes the turns that come after none, one, two and so on. -/
theorem course_turns (agent : Agent σ γ) (conditions : Conditions) (limit : Nat)
    (start : State σ γ) (before : List Event) :
    (agent.course conditions limit start before).turns =
      (List.range (agent.course conditions limit start before).turns.length).map
        (agent.turnAt conditions start) := by
  refine List.ext_getElem? fun place => ?_
  cases hturn : (agent.course conditions limit start before).turns[place]? with
  | none =>
      have hbeyond := List.getElem?_eq_none_iff.1 hturn
      simp [hbeyond]
  | some turn =>
      have hplace := (List.getElem?_eq_some_iff.1 hturn).1
      simp [hplace, course_turn_at hturn, turnAt]

/-- What has happened in a course is what has happened before the turn that would be its next. -/
theorem course_trace (agent : Agent σ γ) (conditions : Conditions) (limit : Nat)
    (start : State σ γ) (before : List Event) :
    (agent.course conditions limit start before).trace = agent.traceAt conditions start before
      (agent.course conditions limit start before).turns.length := by
  rcases course_cases agent conditions limit start before with ⟨-, hcourse⟩ | ⟨-, hcourse⟩
  · rw [hcourse]
    rfl
  · obtain ⟨-, htrace⟩ := agent.courseAt_goesTo conditions start before limit 0
    rw [hcourse, htrace, Nat.zero_add]

/-- Why a course has the turns that it has: it was asked to stop before the first one, more would
follow than were looked at, or the last one ended it. -/
inductive Ended (agent : Agent σ γ) (conditions : Conditions) (limit : Nat) (start : State σ γ)
    (before : List Event) (course : Course σ γ) : Prop
  | unbegun (hstopped : conditions.isStopped before = true) (hturns : course.turns = [])
      (hending : course.ending = .stopped) : Ended agent conditions limit start before course
  | unfinished (hturns : course.turns.length = limit) (hending : course.ending = .unfinished) :
      Ended agent conditions limit start before course
  | after {place : Nat} (hturns : course.turns.length = place + 1)
      (h : conditions.EndsWith (agent.turnAt conditions start place) (place + 1) course.trace
        course.ending) : Ended agent conditions limit start before course

/-- How a course heeds when it is to stop. The turn at a place is the one that comes after so many
others, and what has happened before it is known from these. -/
structure Heeds (agent : Agent σ γ) (conditions : Conditions) (limit : Nat) (start : State σ γ)
    (before : List Event) (course : Course σ γ) : Prop where
  taken : course.turns = (List.range course.turns.length).map (agent.turnAt conditions start)
  /-- When a turn begins, the course is not asked to stop. -/
  begun : ∀ place < course.turns.length,
    conditions.isStopped (agent.traceAt conditions start before place) = false
  /-- There are no more turns than are enough. -/
  budget : ∀ enough, conditions.turns = some enough → 1 ≤ enough → course.turns.length ≤ enough
  /-- A turn that is followed by another is recorded. -/
  followed : ∀ place, place + 1 < course.turns.length →
    ∃ record, (agent.turnAt conditions start place).record = .ok record
  /-- A turn is recorded if the backend answers it in words and, where a diary is kept, no number in
  it is too long to be written. -/
  completed : ∀ place, agent.HearsWords (agent.stateAt conditions.edits start place) →
    agent.diary? = none ∨ (agent.turnAt conditions start place).IsCountable →
    ∃ record, (agent.turnAt conditions start place).record = .ok record
  /-- Records are numbered one by one. -/
  numbered : ∀ place record, (agent.turnAt conditions start place).record = .ok record →
    record.tick = start.tick + (place + 1)
  /-- A record is written to the diary, if one is kept, once and in its turn. -/
  written : ∀ path, agent.diary? = some path → ∀ place record,
    (agent.turnAt conditions start place).record = .ok record →
    (Event.writes (agent.turnAt conditions start place).events).filterMap (·.1.record?) =
        [record] ∧
      ((∀ writes, agent.hitch? writes = none) →
        Event.cycles (agent.turnAt conditions start place).events = [record])
  /-- A record is handed over when its turn is completed, before anything else happens. -/
  handed : ∀ place < course.turns.length, ∀ record,
    (agent.turnAt conditions start place).record = .ok record →
    ∃ rest, course.trace = agent.traceAt conditions start before place ++
      (agent.turnAt conditions start place).events ++ .hand record :: rest
  /-- The records that are handed over are those of the turns. -/
  records : Event.records (course.trace.drop before.length) =
    course.turns.filterMap (·.record.toOption)
  /-- After the course is asked to stop, there is no more work, or just what remains of a turn that
  has begun. -/
  halted : ∀ happened rest, course.trace = happened ++ rest → before <+: happened →
    conditions.isStopped happened = true → Event.work rest = [] ∨
      ∃ place part others, course.turns.length = place + 1 ∧
        happened = agent.traceAt conditions start before place ++ part ∧
        (agent.turnAt conditions start place).events = part ++ others ∧
        Event.work rest = Event.work others
  ended : agent.Ended conditions limit start before course

/-- A moment at which the course is asked to stop comes after the last turn has begun. -/
theorem prefix_of_stopped (hlasts : conditions.StopLasts)
    (hbegun : conditions.isStopped (agent.traceAt conditions start before place) = false)
    {happened rest : List Event}
    (hcut : agent.traceAt conditions start before (place + 1) = happened ++ rest)
    (hstopped : conditions.isStopped happened = true) :
    agent.traceAt conditions start before place <+: happened := by
  have hfirst : agent.traceAt conditions start before place <+: happened ++ rest :=
    hcut ▸ agent.traceAt_prefix conditions start before (Nat.le_succ place)
  rcases List.prefix_or_prefix_of_prefix hfirst (List.prefix_append happened rest) with
    hearlier | ⟨later, hlater⟩
  · exact hearlier
  · have hasked := hlasts happened later hstopped
    rw [hlater, hbegun] at hasked
    exact nomatch hasked

/-- After a stop that lasts, what remains to be done of some turns is what remains of the last. -/
theorem work_of_stopped (hlasts : conditions.StopLasts) {turns : Nat}
    (hbegun : ∀ place < turns,
      conditions.isStopped (agent.traceAt conditions start before place) = false)
    {happened rest : List Event}
    (hcut : agent.traceAt conditions start before turns = happened ++ rest)
    (hbefore : before <+: happened) (hstopped : conditions.isStopped happened = true) :
    Event.work rest = [] ∨
      ∃ place part others, turns = place + 1 ∧
        happened = agent.traceAt conditions start before place ++ part ∧
        (agent.turnAt conditions start place).events = part ++ others ∧
        Event.work rest = Event.work others := by
  cases turns with
  | zero =>
      obtain ⟨part, rfl⟩ := hbefore
      have hnone : part ++ rest = [] := by
        rw [List.append_assoc] at hcut
        exact List.append_cancel_left (hcut.symm.trans (List.append_nil before).symm)
      rw [(List.append_eq_nil_iff.1 hnone).2]
      exact .inl rfl
  | succ place =>
      obtain ⟨after, hafter, hfollowed⟩ := agent.traceAt_succ conditions start before place
      obtain ⟨part, rfl⟩ :=
        prefix_of_stopped hlasts (hbegun place (Nat.lt_succ_self place)) hcut hstopped
      have hsplit : (agent.turnAt conditions start place).events ++ after = part ++ rest := by
        rw [hafter, List.append_assoc, List.append_assoc] at hcut
        exact List.append_cancel_left hcut
      rcases List.append_eq_append_iff.1 hsplit with ⟨others, rfl, hrest⟩ | ⟨others, hpart, hrest⟩
      · have hidle : Event.work (others ++ rest) = [] := hrest ▸ hfollowed.work
        rw [Event.work_append] at hidle
        exact .inl (List.append_eq_nil_iff.1 hidle).2
      · refine .inr ⟨place, part, others, rfl, rfl, hpart, ?_⟩
        rw [hrest, Event.work_append, hfollowed.work, List.append_nil]

theorem course_begun (agent : Agent σ γ) (conditions : Conditions) (limit : Nat)
    (start : State σ γ) (before : List Event) {place : Nat}
    (hplace : place < (agent.course conditions limit start before).turns.length) :
    conditions.isStopped (agent.traceAt conditions start before place) = false := by
  rcases course_cases agent conditions limit start before with ⟨-, hcourse⟩ | ⟨hdue, hcourse⟩
  · rw [hcourse] at hplace
    exact absurd hplace (Nat.not_lt_zero place)
  · rw [hcourse] at hplace
    obtain ⟨hgoes, -⟩ := agent.courseAt_goesTo conditions start before limit 0
    rw [Nat.zero_add] at hgoes
    exact hgoes.unstopped hdue (Nat.zero_le place) hplace

/-- However many turns are enough, however long the delay between them is, and at whatever moment a
course is asked to stop: its turns are those that began before that moment. Each that can be
recorded is completed, written down and handed over before anything else happens, and after the last
there is no more work. -/
theorem course_heeds_stop (hlasts : conditions.StopLasts) (agent : Agent σ γ) (limit : Nat)
    (start : State σ γ) (before : List Event) :
    agent.Heeds conditions limit start before (agent.course conditions limit start before) := by
  have hturns := course_turns agent conditions limit start before
  have htrace := course_trace agent conditions limit start before
  have hcases := course_cases agent conditions limit start before
  obtain ⟨hgoes, -⟩ := agent.courseAt_goesTo conditions start before limit 0
  have hbegun : ∀ place < (agent.course conditions limit start before).turns.length,
      conditions.isStopped (agent.traceAt conditions start before place) = false :=
    fun place hplace => course_begun agent conditions limit start before hplace
  rw [Nat.zero_add] at hgoes
  generalize agent.course conditions limit start before = course at *
  constructor
  case taken => exact hturns
  case begun => exact hbegun
  case budget =>
    intro enough henough hpositive
    rcases hcases with ⟨-, rfl⟩ | ⟨-, rfl⟩
    · exact Int.le_of_lt hpositive
    · exact hgoes.le_enough henough hpositive
  case followed =>
    intro place hplace
    rcases hcases with ⟨-, rfl⟩ | ⟨-, rfl⟩
    · exact absurd hplace (Nat.not_lt_zero _)
    · exact (hgoes.going_on (Nat.zero_le place) hplace).1
  case completed =>
    exact fun place hwords hcount => exists_record hwords hcount
  case numbered =>
    intro place record hrecord
    have htick : record.tick = (agent.stateAt conditions.edits start place).tick + 1 :=
      Attempt.record_tick (turn_record_iff.1 hrecord).1
    rw [htick, stateAt_tick, Int.add_assoc]
  case written =>
    intro path hdiary place record hrecord
    exact ⟨written_records_turn hdiary hrecord,
      fun hkept => cycles_turn hdiary hkept hrecord⟩
  case handed =>
    intro place hplace record hrecord
    rw [htrace]
    exact agent.traceAt_handed conditions start before hplace hrecord
  case records =>
    rw [htrace, records_drop_traceAt]
    conv_rhs => rw [hturns, List.filterMap_map]
    rfl
  case halted =>
    intro happened rest hcut hbefore hstopped
    exact work_of_stopped hlasts hbegun (htrace.symm.trans hcut) hbefore hstopped
  case ended =>
    rcases hcases with ⟨hstopped, rfl⟩ | ⟨-, rfl⟩
    · exact .unbegun hstopped rfl rfl
    · rcases hgoes.endsWith with ⟨hunfinished, hlimit⟩ | ⟨place, hlast, hends⟩
      · exact .unfinished (hlimit.trans (Nat.zero_add limit)) hunfinished
      · rw [hlast] at hends htrace
        exact .after hlast (htrace ▸ hends)

end Places

/-- Conditions under which a course is asked to stop while the model is asked for so many
answers. -/
def stopAsking (count : Nat) : Conditions where
  isStopped trace := count ≤ (Event.prompts trace).length

theorem stopAsking_lasts (count : Nat) : (stopAsking count).StopLasts := by
  intro before after h
  unfold stopAsking at h ⊢
  have hlength : (Event.prompts (before ++ after)).length =
      (Event.prompts before).length + (Event.prompts after).length := by
    rw [Event.prompts, List.filterMap_append, List.length_append]
    rfl
  simp only [decide_eq_true_eq] at h ⊢
  omega

section Asked

attribute [local instance] Json.Nesting.usual

/-- An agent that is asked to stop while its model is asked for a second answer acts upon that
answer, and its second record is the last one. -/
theorem second_answer_is_last :
    let agent := diligent
    let start := scriptedStart {} ["ACTION: chat hello"] []
    let course := agent.course (stopAsking 2) 5 start []
    agent.Heeds (stopAsking 2) 5 start [] course ∧ course.ending = .stopped ∧
      (Event.records course.trace).map (·.tick) = [1, 2] ∧
      Event.cycles course.trace = Event.records course.trace ∧
      Event.calls course.trace = [.chat "hello", .chat "hello"] := by
  intro agent start course
  exact ⟨course_heeds_stop (stopAsking_lasts 2) agent 5 start [], by decide +kernel,
    by decide +kernel, by decide +kernel, by decide +kernel⟩

/-- Where too much is carried to be written, a turn begins that is neither written down nor handed
over. -/
theorem hoarding_turn_not_handed :
    let start := scriptedStart hoard ["ACTION: chat hello"] []
    let course := diligent.course {} 5 start []
    course.turns.length = 1 ∧ (Event.work course.trace).length = 1 ∧
      Event.cycles course.trace = [] ∧ Event.records course.trace = [] := by
  decide +kernel

end Asked

end Agent

end Cycle

end Rulebound
