import Mathlib.Data.List.Forall2
import Rulebound.Proofs.Enforcement
import Rulebound.Proofs.Writing

/-!
# The diary changes nothing but records

Two courses of one agent that differ only in where the diary is, whether there is one, and where its
writings are held up, see, ask and do the same turn by turn. A writing that is held up loses its own
entry and no other one. As long as everything in their turns can be written, the courses also have
the same records and end alike; a record without a text ends a course that keeps a diary.
-/

namespace Rulebound

/-! ## What happens apart from the diary -/

theorem Text.startsWith_append (part rest : List Char) :
    Text.startsWith part (part ++ rest) = true := by
  induction part with
  | nil => rfl
  | cons c part ih => simp [Text.startsWith, ih]

namespace Event

/-- How a line begins that notes the loss of an entry. -/
def lossMark : String := "Could not write diary entry to "

/-- Whether an event is a writing to the diary or notes the loss of an entry. -/
def isOfDiary : Event → Bool
  | write _ _ => true
  | log line => line.level == .error && Text.startsWith lossMark.toList line.text.toList
  | _ => false

theorem isOfDiary_loss (place : String) :
    (log (.error ("Could not write diary entry to " ++ place))).isOfDiary = true := by
  unfold isOfDiary lossMark
  dsimp only [Log.Line.error]
  rw [String.toList_append, Text.startsWith_append]
  rfl

def apart (events : List Event) : List Event :=
  events.filter fun event => !event.isOfDiary

theorem apart_append (first later : List Event) :
    apart (first ++ later) = apart first ++ apart later :=
  List.filter_append ..

/-- What is seen of events that is not about the diary is seen of them apart from it. -/
theorem filterMap_apart {β : Type} {view : Event → Option β}
    (h : ∀ event, event.isOfDiary = true → view event = none) (events : List Event) :
    (apart events).filterMap view = events.filterMap view := by
  induction events with
  | nil => rfl
  | cons event rest ih =>
      cases hdiary : event.isOfDiary with
      | true =>
          have hleft : apart (event :: rest) = apart rest := by simp [apart, hdiary]
          rw [hleft, List.filterMap_cons_none (h event hdiary)]
          exact ih
      | false =>
          have hsplit : apart (event :: rest) = event :: apart rest := by
            simp [apart, hdiary]
          rw [hsplit, List.filterMap_cons, List.filterMap_cons, ih]

theorem prompts_apart (events : List Event) : prompts (apart events) = prompts events := by
  refine filterMap_apart (fun event hdiary => ?_) events
  cases event with
  | generate prompt => exact nomatch hdiary
  | _ => rfl

theorem records_apart (events : List Event) : records (apart events) = records events := by
  refine filterMap_apart (fun event hdiary => ?_) events
  cases event with
  | hand record => exact nomatch hdiary
  | _ => rfl

end Event

namespace Cycle

variable {σ γ : Type}

/-- Conditions under which it does not depend on the diary when a course is asked to stop. -/
def Conditions.IgnoresDiary (conditions : Conditions) : Prop :=
  ∀ first second, Event.apart first = Event.apart second →
    conditions.isStopped first = conditions.isStopped second

/-- What a turn comes to: its record, its phases, what the backend was asked, and the world that it
leaves. -/
structure Face (σ : Type) where
  record : Except Fault Record
  phases : List Phase
  prompts : List Prompt
  world : σ

def Turn.face (turn : Turn σ γ) : Face σ where
  record := turn.record
  phases := turn.phases
  prompts := Event.prompts turn.events
  world := turn.state.world

/-- States that differ at most in how many times the diary was written to. -/
def State.Alike (first second : State σ γ) : Prop :=
  ∃ writes, first = { second with writes }

/-- Turns in which the same is seen, asked and done. -/
structure Turn.Alike (first second : Turn σ γ) : Prop where
  state : first.state.Alike second.state
  attempt : first.attempt = second.attempt
  events : Event.apart first.events = Event.apart second.events

/-- Courses that differ at most in what became of the diary. -/
structure Course.Alike (first second : Course σ γ) : Prop where
  turns : List.Forall₂ (fun one other => one.Alike other ∧ one.record = other.record)
    first.turns second.turns
  trace : Event.apart first.trace = Event.apart second.trace
  ending : first.ending = second.ending

theorem Turn.Alike.isCountable {first second : Turn σ γ} (h : first.Alike second)
    (hcount : second.IsCountable) : first.IsCountable := by
  obtain ⟨⟨writes, hstate⟩, hattempt, -⟩ := h
  unfold IsCountable
  rw [hstate, hattempt]
  exact hcount

namespace Agent

/-! ## One turn -/

theorem apart_andThen {first : Written} {next : Nat → Written}
    (h : ∀ writes, Event.apart (next writes).events = []) :
    Event.apart (first.andThen next).events = Event.apart first.events := by
  unfold Written.andThen
  cases first.fault? with
  | some fault => rfl
  | none =>
      dsimp only
      rw [Event.apart_append, h, List.append_nil]

theorem prompts_of_alike {first second : Turn σ γ} (h : first.Alike second) :
    Event.prompts first.events = Event.prompts second.events := by
  rw [← Event.prompts_apart first.events, h.events, Event.prompts_apart]

theorem face_of_alike {first second : Turn σ γ} (h : first.Alike second)
    (hrecord : first.record = second.record) : first.face = second.face := by
  have hprompts := prompts_of_alike h
  obtain ⟨⟨writes, hstate⟩, hattempt, -⟩ := h
  unfold Turn.face Turn.phases
  rw [hstate, hattempt, hrecord, hprompts]

theorem due_of_alike (agent : Agent σ γ) {first second : Turn σ γ} (h : first.Alike second)
    (hrecord : first.record = second.record) : agent.due first = agent.due second := by
  obtain ⟨⟨writes, hstate⟩, hattempt, -⟩ := h
  unfold due
  rw [hstate, hattempt, hrecord]

variable [Json.Nesting]

theorem apart_write (agent : Agent σ γ) (writes : Nat) (entry : Diary.Entry) :
    Event.apart (agent.write writes entry).events = [] := by
  have hwrite : ∀ kept, (Event.write entry kept).isOfDiary = true := fun _ => rfl
  unfold write
  cases agent.diary? with
  | none => rfl
  | some path =>
      cases agent.obstruction? writes entry with
      | none => rfl
      | some fault =>
          cases hsystem : fault.kind.isSystem <;>
            simp [hsystem, Event.apart, hwrite, Event.isOfDiary_loss]

theorem apart_writeAll (agent : Agent σ γ) (writes : Nat) (entries : List Diary.Entry) :
    Event.apart (agent.writeAll writes entries).events = [] := by
  induction entries generalizing writes with
  | nil => rfl
  | cons entry rest ih => exact (apart_andThen ih).trans (apart_write ..)

theorem apart_writeTurn (agent : Agent σ γ) (writes : Nat) (now : Instant)
    (record : Except Fault Record) :
    Event.apart (agent.writeTurn writes now record).events = [] := by
  cases record with
  | error fault => rfl
  | ok record => exact apart_writeAll agent writes _

theorem apart_writeFault (agent : Agent σ γ) (writes : Nat) (now : Instant)
    (fault? : Option Fault) :
    Event.apart (agent.writeFault writes now fault?).events =
      Event.apart (fault?.toList.map fun _ => .log (.error faultMessage)) := by
  cases fault? with
  | none => rfl
  | some fault =>
      have hsplit : (agent.writeFault writes now (some fault)).events =
          [.log (.error faultMessage)] ++
            (agent.write writes (.error now faultMessage fault)).events := rfl
      rw [hsplit, Event.apart_append, apart_write, List.append_nil]
      rfl

theorem apart_turn (agent : Agent σ γ) (state : State σ γ) :
    Event.apart (agent.turn state).events = Event.apart (agent.attempt state).events ++
      Event.apart ((agent.attempt state).attempt.fault?.toList.map
        fun _ => .log (.error faultMessage)) := by
  rw [turn_events, Event.apart_append, writtenOf,
    apart_andThen fun writes => apart_writeTurn agent writes _ _, apart_writeFault]

/-- A turn comes to the same whatever becomes of the diary. -/
theorem turn_alike (agent : Agent σ γ) (diary? other? : Option Path)
    (hitch? otherHitch? : Nat → Option Hitch) {first second : State σ γ} (h : first.Alike second) :
    ((agent.keeping diary? hitch?).turn first).Alike
      ((agent.keeping other? otherHitch?).turn second) := by
  obtain ⟨writes, rfl⟩ := h
  have hattempt : (agent.keeping diary? hitch?).attempt { second with writes } =
      (agent.keeping other? otherHitch?).attempt second := rfl
  constructor
  case state => exact ⟨_, rfl⟩
  case attempt => rfl
  case events => rw [apart_turn, apart_turn, hattempt]

/-- So does its record, if everything in the turn can be written. -/
theorem turn_record_alike (agent : Agent σ γ) (diary? other? : Option Path)
    (hitch? otherHitch? : Nat → Option Hitch) {first second : State σ γ} (h : first.Alike second)
    (hcount : ((agent.keeping other? otherHitch?).turn second).IsCountable) :
    ((agent.keeping diary? hitch?).turn first).record =
      ((agent.keeping other? otherHitch?).turn second).record := by
  have hfirst := (turn_alike agent diary? other? hitch? otherHitch? h).isCountable hcount
  obtain ⟨writes, rfl⟩ := h
  rw [turn_record_of_isCountable (.inr hcount), turn_record_of_isCountable (.inr hfirst)]
  rfl

/-- The states at a place of two courses are alike, and so are the turns that begin in them. -/
theorem stateAt_alike (agent : Agent σ γ) (diary? other? : Option Path)
    (hitch? otherHitch? : Nat → Option Hitch) (edits : Nat → List RuleEdit) (start : State σ γ)
    (place : Nat) :
    ((agent.keeping diary? hitch?).stateAt edits start place).Alike
      ((agent.keeping other? otherHitch?).stateAt edits start place) := by
  induction place with
  | zero => exact ⟨start.writes, rfl⟩
  | succ place ih =>
      obtain ⟨⟨writes, hstate⟩, -, -⟩ := turn_alike agent diary? other? hitch? otherHitch? ih
      unfold stateAt stateAfter
      rw [hstate]
      exact ⟨writes, rfl⟩

end Agent

/-! ## Between turns -/

namespace Conditions

variable {conditions : Conditions} {first second : List Event}

theorem wait_alike (hstop : conditions.IgnoresDiary) (h : Event.apart first = Event.apart second)
    (done : Nat) :
    Event.apart (conditions.wait done first).1 = Event.apart (conditions.wait done second).1 ∧
      (conditions.wait done first).2 = (conditions.wait done second).2 := by
  have hpaused : Event.apart (first ++ [.pause]) = Event.apart (second ++ [.pause]) := by
    rw [Event.apart_append, Event.apart_append, h]
  unfold wait
  dsimp only
  rw [hstop first second h, hstop _ _ hpaused]
  split
  · exact ⟨h, rfl⟩
  · split
    · exact ⟨h, rfl⟩
    · split
      · exact ⟨h, rfl⟩
      · exact ⟨hpaused, rfl⟩

theorem reach_alike (hstop : conditions.IgnoresDiary) {one other : Turn σ γ}
    (hturn : one.Alike other) (hrecord : one.record = other.record)
    (h : Event.apart first = Event.apart second) (done : Nat) :
    (conditions.reach one done first).state.Alike (conditions.reach other done second).state ∧
      Event.apart (conditions.reach one done first).trace =
        Event.apart (conditions.reach other done second).trace ∧
      (conditions.reach one done first).ending? = (conditions.reach other done second).ending? := by
  obtain ⟨⟨writes, hstate⟩, -, hevents⟩ := hturn
  have hturned : Event.apart (first ++ one.events) = Event.apart (second ++ other.events) := by
    rw [Event.apart_append, Event.apart_append, h, hevents]
  unfold reach
  rw [hrecord, hstate]
  cases other.record with
  | error fault => exact ⟨⟨writes, rfl⟩, hturned, rfl⟩
  | ok record =>
      have hhanded : Event.apart (first ++ one.events ++ [.hand record]) =
          Event.apart (second ++ other.events ++ [.hand record]) := by
        rw [Event.apart_append, hturned, ← Event.apart_append]
      cases hobjection : conditions.objection done record with
      | some fault =>
          simp only [hobjection]
          exact ⟨⟨writes, rfl⟩, hhanded, trivial⟩
      | none =>
          have hnoted : ∀ logs, Event.apart (first ++ one.events ++ [.hand record] ++ logs) =
              Event.apart (second ++ other.events ++ [.hand record] ++ logs) := by
            intro logs
            rw [Event.apart_append, hhanded, ← Event.apart_append]
          simp only [hobjection]
          exact ⟨⟨writes, rfl⟩, wait_alike hstop (hnoted _) done⟩

end Conditions

/-! ## Whole courses -/

namespace Agent

theorem map_of_alike {β : Type} {f : Turn σ γ → β}
    (hf : ∀ one other : Turn σ γ, one.Alike other → one.record = other.record → f one = f other)
    {first second : List (Turn σ γ)}
    (h : List.Forall₂ (fun one other => one.Alike other ∧ one.record = other.record)
      first second) : first.map f = second.map f := by
  induction h with
  | nil => rfl
  | cons hturn _ ih => rw [List.map_cons, List.map_cons, hf _ _ hturn.1 hturn.2, ih]

theorem isCountable_of_alike {first second : List (Turn σ γ)}
    (h : List.Forall₂ (fun one other => one.Alike other ∧ one.record = other.record)
      first second) (hcount : ∀ turn ∈ second, turn.IsCountable) :
    ∀ turn ∈ first, turn.IsCountable := by
  induction h with
  | nil => exact hcount
  | cons hturn _ ih =>
      rw [List.forall_mem_cons] at hcount ⊢
      exact ⟨hturn.1.isCountable hcount.1, ih hcount.2⟩

theorem inward_written? : Inward Event.written? :=
  ⟨fun _ => rfl, fun _ => rfl, rfl⟩

section Courses

variable [Json.Nesting] {conditions : Conditions}

theorem courseFrom_alike (hstop : conditions.IgnoresDiary) (agent : Agent σ γ)
    (diary? other? : Option Path) (hitch? otherHitch? : Nat → Option Hitch) (limit : Nat)
    {first second : State σ γ} (h : first.Alike second) {before other : List Event}
    (hbefore : Event.apart before = Event.apart other) (done : Nat)
    (hcount : ∀ turn ∈ ((agent.keeping other? otherHitch?).courseFrom conditions limit second done
      other).turns, turn.IsCountable) :
    ((agent.keeping diary? hitch?).courseFrom conditions limit first done before).Alike
      ((agent.keeping other? otherHitch?).courseFrom conditions limit second done other) := by
  induction limit generalizing first second before other done with
  | zero => exact ⟨.nil, hbefore, rfl⟩
  | succ limit ih =>
      have hturn := turn_alike agent diary? other? hitch? otherHitch? h
      have hhere : ((agent.keeping other? otherHitch?).turn second).IsCountable := by
        rcases courseFrom_turns (agent.keeping other? otherHitch?) conditions limit second done
            other with hlast | ⟨later, hmore⟩
        · exact hcount _ (hlast ▸ List.mem_singleton_self _)
        · exact hcount _ (hmore ▸ List.mem_cons_self)
      have hrecord := turn_record_alike agent diary? other? hitch? otherHitch? h hhere
      obtain ⟨hstate, htrace, hending⟩ :=
        Conditions.reach_alike hstop hturn hrecord hbefore (done + 1)
      unfold courseFrom at hcount ⊢
      dsimp only at hcount ⊢
      rw [hending]
      cases hcase : (conditions.reach ((agent.keeping other? otherHitch?).turn second) (done + 1)
          other).ending? with
      | some ending => exact ⟨.cons ⟨hturn, hrecord⟩ .nil, htrace, rfl⟩
      | none =>
          rw [hcase] at hcount
          obtain ⟨hturns, hrest, hlast⟩ := ih hstate htrace (done + 1)
            (List.forall_mem_cons.1 hcount).2
          exact ⟨.cons ⟨hturn, hrecord⟩ hturns, hrest, hlast⟩

theorem course_alike (hstop : conditions.IgnoresDiary) (agent : Agent σ γ)
    (diary? other? : Option Path) (hitch? otherHitch? : Nat → Option Hitch) (limit : Nat)
    (start : State σ γ) (before : List Event)
    (hcount : ∀ turn ∈ ((agent.keeping other? otherHitch?).course conditions limit start
      before).turns, turn.IsCountable) :
    ((agent.keeping diary? hitch?).course conditions limit start before).Alike
      ((agent.keeping other? otherHitch?).course conditions limit start before) := by
  unfold course at hcount ⊢
  cases hasked : conditions.isStopped before with
  | true =>
      rw [if_pos rfl, if_pos rfl]
      exact ⟨.nil, rfl, rfl⟩
  | false =>
      rw [hasked, if_neg (by decide)] at hcount
      rw [if_neg (by decide), if_neg (by decide)]
      exact courseFrom_alike hstop agent diary? other? hitch? otherHitch? limit
        ⟨start.writes, rfl⟩ rfl 0 hcount

/-! ## What is written in a course -/

/-- A course writes all that is due of its turns, one entry after another, and each is kept unless
its own writing is held up. Beyond that, nothing but a record without a text is written, and lost,
in its last turn. -/
theorem courseFrom_writes {agent : Agent σ γ} {path : Path} (hdiary : agent.diary? = some path)
    (conditions : Conditions) (limit : Nat) (state : State σ γ) (done : Nat) (trace : List Event) :
    ∃ after lost, (agent.courseFrom conditions limit state done trace).trace = trace ++ after ∧
      Event.writes after = agent.marked state.writes
        ((agent.courseFrom conditions limit state done trace).turns.flatMap agent.due) ++ lost ∧
      (∀ written ∈ lost, written.2 = false) ∧
      ((∀ turn ∈ (agent.courseFrom conditions limit state done trace).turns, turn.IsCountable) →
        lost = []) := by
  induction limit generalizing state done trace with
  | zero => exact ⟨[], [], (List.append_nil trace).symm, rfl, List.forall_mem_nil _, fun _ => rfl⟩
  | succ limit ih =>
      obtain ⟨lost, hwritten, hcount, hlost, hcountable, hrecorded⟩ := writes_turn hdiary state
      obtain ⟨first, hfirst, hview⟩ :=
        reach_trace inward_written? conditions (agent.turn state) (done + 1) trace
      have hdue : Event.writes first =
          agent.marked state.writes (agent.due (agent.turn state)) ++ lost :=
        hview.trans hwritten
      cases hending : (conditions.reach (agent.turn state) (done + 1) trace).ending? with
      | some ending =>
          refine ⟨first, lost, by simp [courseFrom, hending, hfirst],
            by simp [courseFrom, hending, hdue], hlost, fun hturns => hcountable ?_⟩
          exact hturns _ (by simp [courseFrom, hending])
      | none =>
          have hwrites : (conditions.reach (agent.turn state) (done + 1) trace).state.writes =
              state.writes + (agent.due (agent.turn state)).length + lost.length := by
            rw [reach_state hending]
            exact hcount
          obtain ⟨record, hrecord⟩ := recorded_of_reach hending
          obtain rfl := hrecorded record hrecord
          obtain ⟨later, lost, hlater, hrest, hlost, hcountable⟩ := ih
            (conditions.reach (agent.turn state) (done + 1) trace).state (done + 1)
            (conditions.reach (agent.turn state) (done + 1) trace).trace
          refine ⟨first ++ later, lost, ?_, ?_, hlost,
            fun hturns => hcountable fun turn hturn => ?_⟩
          · simp only [courseFrom, hending, hlater]
            rw [hfirst, List.append_assoc]
          · simp only [courseFrom, hending, List.flatMap_cons]
            rw [Event.writes_append, hdue, hrest, hwrites, marked_append, List.append_nil,
              List.append_assoc]
            rfl
          · refine hturns turn ?_
            simp only [courseFrom, hending]
            exact List.mem_cons_of_mem _ hturn

theorem course_writes {agent : Agent σ γ} {path : Path} (hdiary : agent.diary? = some path)
    (conditions : Conditions) (limit : Nat) (start : State σ γ) (before : List Event) :
    ∃ after lost, (agent.course conditions limit start before).trace = before ++ after ∧
      Event.writes after = agent.marked start.writes
        ((agent.course conditions limit start before).turns.flatMap agent.due) ++ lost ∧
      (∀ written ∈ lost, written.2 = false) ∧
      ((∀ turn ∈ (agent.course conditions limit start before).turns, turn.IsCountable) →
        lost = []) := by
  unfold course
  split
  · exact ⟨[], [], (List.append_nil before).symm, rfl, List.forall_mem_nil _, fun _ => rfl⟩
  · exact courseFrom_writes hdiary conditions limit start 0 before

theorem isWritable_of_mem_course (agent : Agent σ γ) (conditions : Conditions) (limit : Nat)
    (start : State σ γ) (before : List Event) {entry : Diary.Entry}
    (h : entry ∈ Event.entries
      ((agent.course conditions limit start before).trace.drop before.length)) :
    entry.IsWritable := by
  rw [Event.mem_entries, Event.writes] at h
  rw [filterMap_course inward_written?, List.mem_flatMap] at h
  obtain ⟨turn, hturn, hwritten⟩ := h
  obtain ⟨place, hplace⟩ := List.mem_iff_getElem?.1 hturn
  rw [course_turn_at hplace] at hwritten
  exact isWritable_of_mem_writes_turn hwritten

/-- Whatever becomes of the diary, the turns that two courses have at the same place see, ask and do
the same. As long as everything in the turns of a course can be written, turn by turn the other
course comes to the same, everything but the diary is the same, and it ends alike; if it has a
diary, all that is due of the turns is written to it, and each entry is kept unless its own writing
is held up. -/
theorem course_ignores_diary (hstop : conditions.IgnoresDiary) (agent : Agent σ γ)
    (diary? other? : Option Path) (hitch? otherHitch? : Nat → Option Hitch) (limit : Nat)
    (start : State σ γ) (before : List Event) :
    let first := (agent.keeping diary? hitch?).course conditions limit start before
    let second := (agent.keeping other? otherHitch?).course conditions limit start before
    (∀ (place : Nat) (one other : Turn σ γ), first.turns[place]? = some one →
      second.turns[place]? = some other →
        one.attempt = other.attempt ∧ Event.prompts one.events = Event.prompts other.events ∧
          one.state.world = other.state.world) ∧
      ((∀ turn ∈ second.turns, turn.IsCountable) →
        first.turns.map Turn.face = second.turns.map Turn.face ∧
          Event.apart first.trace = Event.apart second.trace ∧ first.ending = second.ending ∧
          (diary?.isSome → Event.writes (first.trace.drop before.length) =
            ((second.turns.flatMap agent.due).zipIdx start.writes).map
              fun (entry, place) => (entry, (hitch? place).isNone))) := by
  intro first second
  constructor
  · intro place one other hone hother
    have halike : one.Alike other := by
      rw [course_turn_at hone, course_turn_at hother]
      exact turn_alike agent diary? other? hitch? otherHitch? (stateAt_alike ..)
    have hprompts := prompts_of_alike halike
    obtain ⟨⟨writes, hstate⟩, hattempt, -⟩ := halike
    exact ⟨hattempt, hprompts, by rw [hstate]⟩
  · intro hcount
    have halike : first.Alike second :=
      course_alike hstop agent diary? other? hitch? otherHitch? limit start before hcount
    refine ⟨map_of_alike (fun _ _ => face_of_alike) halike.turns, halike.trace, halike.ending, ?_⟩
    intro hsome
    obtain ⟨path, rfl⟩ := Option.isSome_iff_exists.1 hsome
    have hdiary : (agent.keeping (some path) hitch?).diary? = some path := rfl
    obtain ⟨after, lost, htrace, hwritten, -, hnone⟩ :=
      course_writes hdiary conditions limit start before
    have hdue : first.turns.flatMap agent.due = second.turns.flatMap agent.due := by
      rw [List.flatMap_def, List.flatMap_def,
        map_of_alike (fun _ _ => due_of_alike agent) halike.turns]
    have hcounted := isCountable_of_alike halike.turns hcount
    have hdrop : first.trace.drop before.length = after := by
      rw [htrace, List.drop_left]
    rw [hdrop, hwritten, hnone hcounted, ← hdue, List.append_nil]
    rfl

end Courses

def stopAfter (count : Nat) : Conditions where
  isStopped trace := count ≤ (Event.records trace).length

theorem stopAfter_ignoresDiary (count : Nat) : (stopAfter count).IgnoresDiary := by
  intro first second h
  unfold stopAfter
  dsimp only
  rw [← Event.records_apart first, h, Event.records_apart]

section Lossy

attribute [local instance] Json.Nesting.usual

theorem lost_record_changes_nothing :
    let start := scriptedStart {} ["ACTION: chat hello", "ACTION: mine oak_log"] []
    let lossy := (scripted.keeping (some default) fun place =>
      if place = 0 then some .writing else none).course (stopAfter 2) 3 start []
    let bare := (scripted.keeping none fun _ => none).course (stopAfter 2) 3 start []
    (∀ turn ∈ bare.turns, turn.IsCountable) ∧
      lossy.turns.map Turn.face = bare.turns.map Turn.face ∧ lossy.turns.length = 2 ∧
      lossy.ending = .stopped ∧ (Event.writes lossy.trace).map (·.2) = [false, true, true] := by
  intro start lossy bare
  have hcount : ∀ turn ∈ bare.turns, turn.IsCountable := by decide +kernel
  obtain ⟨-, hsame⟩ := course_ignores_diary (stopAfter_ignoresDiary 2) scripted
    (some default) none (fun place => if place = 0 then some .writing else none) (fun _ => none)
    3 start []
  exact ⟨hcount, (hsame hcount).1, by decide +kernel, by decide +kernel, by decide +kernel⟩

/-- A record without a text is lost to a diary that works, and not to none. -/
theorem long_count_lost_to_diary :
    let start := scriptedStart hoard ["ACTION: chat hello"] []
    let kept := diligent.course {} 1 start []
    let bare := scripted.course {} 1 start []
    ∃ fault record, kept.turns[0]?.map Turn.record = some (.error fault) ∧
      bare.turns[0]?.map Turn.record = some (.ok record) := by
  intro start kept bare
  have hwords : scripted.HearsWords start :=
    hearsWords_of_texts ["ACTION: chat hello"] rfl rfl
  obtain ⟨fault, hfault⟩ : ∃ fault, (diligent.turn start).record = .error fault :=
    diligent_hoarding rfl
  obtain ⟨record, hrecord⟩ := exists_recordOf hwords
  refine ⟨fault, record, ?_, ?_⟩
  · rw [course_first_turn _ rfl 0 start, Option.map_some, hfault]
  · rw [course_first_turn _ rfl 0 start, Option.map_some,
      turn_record_of_isCountable (.inl rfl), hrecord]

end Lossy

end Agent

end Cycle

end Rulebound
