import Rulebound.Cycle.Course

/-!
# Courses, turn by turn

Every turn of a course is one turn of the agent from the state that the turns and the changes of
the rules before it lead to. So what holds of one turn from every state holds of every turn of
every course, however the course ends.
-/

namespace Rulebound

/-! ## Changes of the rules -/

def RuleBook.edited (book : RuleBook) (edits : List RuleEdit) : RuleBook :=
  edits.foldl (fun book edit => edit.apply book) book

@[simp] theorem RuleBook.edited_nil (book : RuleBook) : book.edited [] = book := rfl

theorem RuleBook.edited_append (book : RuleBook) (first later : List RuleEdit) :
    book.edited (first ++ later) = (book.edited first).edited later := by
  simp [RuleBook.edited, List.foldl_append]

namespace Cycle

theorem applyEdits_fst (book : RuleBook) (edits : List RuleEdit) :
    (applyEdits book edits).1 = book.edited edits := by
  induction edits generalizing book with
  | nil => rfl
  | cons edit rest ih => exact ih (edit.apply book)

def editsBefore (edits : Nat → List RuleEdit) (done : Nat) : List RuleEdit :=
  (List.range done).flatMap fun place => edits (place + 1)

theorem editsBefore_succ (edits : Nat → List RuleEdit) (done : Nat) :
    editsBefore edits (done + 1) = editsBefore edits done ++ edits (done + 1) := by
  simp [editsBefore, List.range_succ]

namespace Agent

variable {σ γ : Type}

/-! ## Between turns -/

/-- Unless a turn ends the course, the rules are changed after it and nothing else of the state. -/
theorem reach_state {conditions : Conditions} {turn : Turn σ γ} {done : Nat} {trace : List Event}
    (h : (conditions.reach turn done trace).ending? = none) :
    (conditions.reach turn done trace).state =
      { turn.state with book := turn.state.book.edited (conditions.edits done) } := by
  unfold Conditions.reach at h ⊢
  cases hrecord : turn.record with
  | error fault => simp [hrecord] at h
  | ok record =>
      cases hobjection : conditions.objection done record with
      | some fault => simp [hrecord, hobjection] at h
      | none => simp [hobjection, applyEdits_fst]

/-- A course goes on only from a turn with a record. -/
theorem recorded_of_reach {conditions : Conditions} {turn : Turn σ γ} {done : Nat}
    {trace : List Event} (h : (conditions.reach turn done trace).ending? = none) :
    ∃ record, turn.record = .ok record := by
  unfold Conditions.reach at h
  cases hrecord : turn.record with
  | error fault => simp [hrecord] at h
  | ok record => exact ⟨record, rfl⟩

section Inward

variable {β : Type} {view : Event → Option β}

theorem wait_trace (conditions : Conditions) (done : Nat) (trace : List Event) :
    (conditions.wait done trace).1 = trace ∨
      (conditions.wait done trace).1 = trace ++ [.pause] := by
  unfold Conditions.wait
  dsimp only
  split
  · exact .inl rfl
  · split
    · exact .inl rfl
    · split
      · exact .inl rfl
      · exact .inr rfl

/-- A view of events that sees nothing of what happens between turns. -/
structure Inward (view : Event → Option β) : Prop where
  log : ∀ line, view (.log line) = none
  hand : ∀ record, view (.hand record) = none
  pause : view .pause = none

theorem inward_call? : Inward Event.call? :=
  ⟨fun _ => rfl, fun _ => rfl, rfl⟩

theorem reach_trace (h : Inward view) (conditions : Conditions) (turn : Turn σ γ) (done : Nat)
    (trace : List Event) :
    ∃ after, (conditions.reach turn done trace).trace = trace ++ after ∧
      after.filterMap view = turn.events.filterMap view := by
  unfold Conditions.reach
  cases hrecord : turn.record with
  | error fault => exact ⟨turn.events, rfl, rfl⟩
  | ok record =>
      cases hobjection : conditions.objection done record with
      | some fault =>
          refine ⟨turn.events ++ [.hand record], ?_, by simp [h.hand]⟩
          simp [hobjection]
      | none =>
          have hnotes : ∀ logs, (Event.notes logs).filterMap view = [] := by
            simp [Event.notes, h.log]
          simp only [hobjection]
          rcases wait_trace conditions done (trace ++ turn.events ++ [.hand record] ++
            Event.notes (applyEdits turn.state.book (conditions.edits done)).2) with hsame | hpause
          · rw [hsame]
            simp only [List.append_assoc]
            exact ⟨_, rfl, by simp [h.hand, hnotes]⟩
          · rw [hpause]
            simp only [List.append_assoc]
            exact ⟨_, rfl, by simp [h.hand, h.pause, hnotes]⟩

end Inward

variable [Json.Nesting]

/-! ## States of a course -/

def stateAfter (agent : Agent σ γ) (state : State σ γ) (edits : List RuleEdit) : State σ γ :=
  let left := (agent.turn state).state
  { left with book := left.book.edited edits }

def stateAt (agent : Agent σ γ) (edits : Nat → List RuleEdit) (start : State σ γ) :
    Nat → State σ γ
  | 0 => start
  | done + 1 => agent.stateAfter (agent.stateAt edits start done) (edits (done + 1))

/-- The rules at a turn are the first ones with all changes that were made before it. -/
theorem stateAt_book (agent : Agent σ γ) (edits : Nat → List RuleEdit) (start : State σ γ)
    (done : Nat) :
    (agent.stateAt edits start done).book = start.book.edited (editsBefore edits done) := by
  induction done with
  | zero => rfl
  | succ done ih =>
      rw [editsBefore_succ, RuleBook.edited_append, ← ih]
      rfl

/-! ## The turns of a course -/

theorem courseFrom_turns (agent : Agent σ γ) (conditions : Conditions) (limit : Nat)
    (state : State σ γ) (done : Nat) (trace : List Event) :
    (agent.courseFrom conditions (limit + 1) state done trace).turns = [agent.turn state] ∨
      ∃ later, (agent.courseFrom conditions (limit + 1) state done trace).turns =
        agent.turn state :: (agent.courseFrom conditions limit
          (agent.stateAfter state (conditions.edits (done + 1))) (done + 1) later).turns := by
  cases hending : (conditions.reach (agent.turn state) (done + 1) trace).ending? with
  | some ending => exact .inl (by simp [courseFrom, hending])
  | none =>
      refine .inr ⟨(conditions.reach (agent.turn state) (done + 1) trace).trace, ?_⟩
      simp only [courseFrom, hending, reach_state hending]
      rfl

theorem courseFrom_turn_at {agent : Agent σ γ} {conditions : Conditions} {limit : Nat}
    {start : State σ γ} {done : Nat} {trace : List Event} {place : Nat} {turn : Turn σ γ}
    (h : (agent.courseFrom conditions limit (agent.stateAt conditions.edits start done) done
      trace).turns[place]? = some turn) :
    turn = agent.turn (agent.stateAt conditions.edits start (done + place)) := by
  induction limit generalizing done trace place with
  | zero => simp [courseFrom] at h
  | succ limit ih =>
      rcases courseFrom_turns agent conditions limit (agent.stateAt conditions.edits start done)
          done trace with hlast | ⟨later, hmore⟩
      · cases place with
        | zero => simpa [hlast] using h.symm
        | succ place => simp [hlast] at h
      · cases place with
        | zero => simpa [hmore] using h.symm
        | succ place =>
            rw [hmore, List.getElem?_cons_succ] at h
            have hrest : turn =
                agent.turn (agent.stateAt conditions.edits start (done + 1 + place)) := ih h
            rw [hrest, Nat.add_assoc, Nat.add_comm 1 place]

/-- The turn at a place of a course begins in the state of that place. -/
theorem course_turn_at {agent : Agent σ γ} {conditions : Conditions} {limit : Nat}
    {start : State σ γ} {before : List Event} {place : Nat} {turn : Turn σ γ}
    (h : (agent.course conditions limit start before).turns[place]? = some turn) :
    turn = agent.turn (agent.stateAt conditions.edits start place) := by
  unfold course at h
  split at h
  · simp at h
  · have hfrom : turn = agent.turn (agent.stateAt conditions.edits start (0 + place)) :=
      courseFrom_turn_at h
    simpa using hfrom

/-! ## The trace of a course -/

section Trace

variable {β : Type} {view : Event → Option β}

theorem courseFrom_trace (h : Inward view) (agent : Agent σ γ) (conditions : Conditions)
    (limit : Nat) (state : State σ γ) (done : Nat) (trace : List Event) :
    ∃ after, (agent.courseFrom conditions limit state done trace).trace = trace ++ after ∧
      after.filterMap view = (agent.courseFrom conditions limit state done trace).turns.flatMap
        fun turn => turn.events.filterMap view := by
  induction limit generalizing state done trace with
  | zero => exact ⟨[], by simp [courseFrom], by simp [courseFrom]⟩
  | succ limit ih =>
      obtain ⟨first, hfirst, hview⟩ := reach_trace h conditions (agent.turn state) (done + 1) trace
      cases hending : (conditions.reach (agent.turn state) (done + 1) trace).ending? with
      | some ending => exact ⟨first, by simp [courseFrom, hending, hfirst],
          by simp [courseFrom, hending, hview]⟩
      | none =>
          obtain ⟨later, hlater, hrest⟩ := ih
            (conditions.reach (agent.turn state) (done + 1) trace).state (done + 1)
            (conditions.reach (agent.turn state) (done + 1) trace).trace
          refine ⟨first ++ later, ?_, ?_⟩
          · simp only [courseFrom, hending, hlater]
            rw [hfirst, List.append_assoc]
          · simp only [courseFrom, hending, List.flatMap_cons, List.filterMap_append, hview, hrest]

/-- What happens in a course, apart from what happens between its turns, happens in its turns. -/
theorem filterMap_course (h : Inward view) (agent : Agent σ γ) (conditions : Conditions)
    (limit : Nat) (start : State σ γ) (before : List Event) :
    ((agent.course conditions limit start before).trace.drop before.length).filterMap view =
      (agent.course conditions limit start before).turns.flatMap
        fun turn => turn.events.filterMap view := by
  unfold course
  split
  · simp
  · obtain ⟨after, htrace, hview⟩ := courseFrom_trace h agent conditions limit start 0 before
    rw [htrace, List.drop_left, hview]

/-- Every call in a course is made in one of its turns. -/
theorem course_call {agent : Agent σ γ} {conditions : Conditions} {limit : Nat}
    {start : State σ γ} {before : List Event} {call : Call}
    (h : call ∈ Event.calls
      ((agent.course conditions limit start before).trace.drop before.length)) :
    ∃ (place : Nat) (turn : Turn σ γ),
      (agent.course conditions limit start before).turns[place]? = some turn ∧
        call ∈ Event.calls turn.events := by
  unfold Event.calls at h
  rw [filterMap_course inward_call?, List.mem_flatMap] at h
  obtain ⟨turn, hturn, hcall⟩ := h
  obtain ⟨place, hplace⟩ := List.mem_iff_getElem?.1 hturn
  exact ⟨place, turn, hplace, hcall⟩

end Trace

/-- A course that is not asked to stop before it begins has a first turn. -/
theorem course_first_turn (agent : Agent σ γ) {conditions : Conditions} {before : List Event}
    (h : conditions.isStopped before = false) (limit : Nat) (start : State σ γ) :
    (agent.course conditions (limit + 1) start before).turns[0]? = some (agent.turn start) := by
  unfold course
  rw [if_neg (by simp [h])]
  rcases courseFrom_turns agent conditions limit start 0 before with hlast | ⟨later, hmore⟩
  · simp [hlast]
  · simp [hmore]

theorem course_of_fault {agent : Agent σ γ} {conditions : Conditions}
    {before : List Event} {start : State σ γ} {fault : Fault}
    (h : conditions.isStopped before = false) (hfault : (agent.turn start).record = .error fault)
    (limit : Nat) :
    agent.course conditions (limit + 1) start before =
      ⟨(agent.turn start).state, [agent.turn start], before ++ (agent.turn start).events,
        .faulted fault⟩ := by
  have hreached : conditions.reach (agent.turn start) 1 before =
      ⟨(agent.turn start).state, before ++ (agent.turn start).events, some (.faulted fault)⟩ := by
    unfold Conditions.reach
    rw [hfault]
  unfold course courseFrom
  rw [if_neg (by simp [h])]
  simp only [Nat.zero_add, hreached]

end Agent

end Cycle

end Rulebound
