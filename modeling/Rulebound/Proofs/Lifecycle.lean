import Rulebound.Proofs.Course
import Rulebound.Proofs.Mediation
import Rulebound.Proofs.Session

/-!
# From waiting to leaving

A run goes from stage to stage: it waits for its backend, connects to its body, takes its turns,
leaves the body, and gives back a backend that was made for it. What can happen at each stage is
said once. Every run goes through the stages in this order, and however it ends, it ends at a stage
at which it uses no body and holds no backend of its own.
-/

namespace Rulebound

open Rulebound.Cycle

/-! ## Connecting, leaving and giving back -/

namespace Event

/-- Whether an event can happen in turns and between them. The others begin or end the use of the
backend or the body. -/
def isOfCourse : Event → Bool
  | ready _ | connect _ | disconnect | close => false
  | _ => true

def connected? : Event → Option Bool
  | connect ok => some ok
  | _ => none

def departs : Event → Bool
  | disconnect => true
  | _ => false

def givesBack : Event → Bool
  | close => true
  | _ => false

def connections (events : List Event) : List Bool :=
  events.filterMap connected?

def departures (events : List Event) : Nat :=
  events.countP departs

def closings (events : List Event) : Nat :=
  events.countP givesBack

@[simp] theorem connections_append (first later : List Event) :
    connections (first ++ later) = connections first ++ connections later :=
  List.filterMap_append

@[simp] theorem departures_append (first later : List Event) :
    departures (first ++ later) = departures first + departures later :=
  List.countP_append

@[simp] theorem closings_append (first later : List Event) :
    closings (first ++ later) = closings first + closings later :=
  List.countP_append

@[simp] theorem connections_singleton (event : Event) :
    connections [event] = event.connected?.toList := by
  cases h : event.connected? <;> simp [connections, h]

@[simp] theorem departures_singleton (event : Event) :
    departures [event] = event.departs.toNat := by
  cases h : event.departs <;> simp [departures, h]

@[simp] theorem closings_singleton (event : Event) :
    closings [event] = event.givesBack.toNat := by
  cases h : event.givesBack <;> simp [closings, h]

end Event

/-! ## Stages -/

/-- How far a run has got. -/
inductive Stage where
  /-- The backend is not ready yet. -/
  | awaiting
  /-- The backend is ready, and the body was not connected to. -/
  | ready
  | connected
  /-- The body was left, or it could not be connected to, or the backend did not become ready. -/
  | ended
  /-- The backend was given back. -/
  | closed
deriving DecidableEq, Repr

namespace Stage

/-- Whether no body is in use at a stage and the backend was not given back. -/
def isFree : Stage → Bool
  | awaiting | ready | ended => true
  | connected | closed => false

/-- What can happen at a stage, and to which stage it leads, given whether the run is asked to
stop. -/
inductive Step (isStopped : Bool) : Stage → Event → Stage → Prop
  | noted {stage : Stage} (line : Log.Line) (h : stage ≠ .closed) :
      Step isStopped stage (.log line) stage
  | written {stage : Stage} (entry : Diary.Entry) (kept : Bool) (h : stage ≠ .closed) :
      Step isStopped stage (.write entry kept) stage
  | readied : Step isStopped .awaiting (.ready true) .ready
  | unready : Step isStopped .awaiting (.ready false) .ended
  | connected (h : isStopped = false) : Step isStopped .ready (.connect true) .connected
  | unconnected (h : isStopped = false) : Step isStopped .ready (.connect false) .ended
  | worked {event : Event} (h : event.isOfCourse = true) :
      Step isStopped .connected event .connected
  | left : Step isStopped .connected .disconnect .ended
  | gaveBack {stage : Stage} (h : stage.isFree = true) : Step isStopped stage .close .closed

end Stage

/-- The events of a run by which it gets to a stage. -/
inductive Passes (isStopped : List Event → Bool) : List Event → Stage → Prop
  | start : Passes isStopped [] .awaiting
  | next {past : List Event} {stage later : Stage} {event : Event}
      (h : Passes isStopped past stage) (hstep : stage.Step (isStopped past) event later) :
      Passes isStopped (past ++ [event]) later

namespace Passes

variable {isStopped : List Event → Bool} {past events before after : List Event}
  {stage last : Stage} {event : Event}

theorem stay (h : Passes isStopped past stage)
    (hstay : ∀ event ∈ events, ∀ stopped, stage.Step stopped event stage) :
    Passes isStopped (past ++ events) stage := by
  induction events generalizing past with
  | nil => simpa using h
  | cons event rest ih =>
      have hfirst : Passes isStopped (past ++ [event]) stage :=
        h.next (hstay event List.mem_cons_self (isStopped past))
      have hrest : ∀ other ∈ rest, ∀ stopped, stage.Step stopped other stage := by
        intro other hother
        exact hstay other (List.mem_cons_of_mem _ hother)
      simpa using ih hfirst hrest

theorem notes (h : Passes isStopped past stage) (hstage : stage ≠ .closed)
    (logs : List Log.Line) : Passes isStopped (past ++ Event.notes logs) stage := by
  apply h.stay
  intro event hevent stopped
  obtain ⟨line, -, rfl⟩ := List.mem_map.1 hevent
  exact .noted line hstage

theorem log (h : Passes isStopped past stage) (hstage : stage ≠ .closed) (line : Log.Line) :
    Passes isStopped (past ++ [.log line]) stage :=
  h.next (.noted line hstage)

theorem write (h : Passes isStopped past stage) (hstage : stage ≠ .closed)
    (entry : Diary.Entry) (kept : Bool) :
    Passes isStopped (past ++ [.write entry kept]) stage :=
  h.next (.written entry kept hstage)

end Passes

/-! ## What has happened by a stage -/

namespace Stage

/-- How often the body was connected to and left and the backend was given back, by a stage. -/
def Accounts (past : List Event) : Stage → Prop
  | awaiting => Event.connections past = [] ∧ Event.departures past = 0 ∧ Event.closings past = 0
  | ready => .ready true ∈ past ∧
      Event.connections past = [] ∧ Event.departures past = 0 ∧ Event.closings past = 0
  | connected =>
      Event.connections past = [true] ∧ Event.departures past = 0 ∧ Event.closings past = 0
  | ended => (Event.connections past).length ≤ 1 ∧
      Event.departures past = (Event.connections past).count true ∧ Event.closings past = 0
  | closed => (Event.connections past).length ≤ 1 ∧
      Event.departures past = (Event.connections past).count true ∧ Event.closings past = 1

variable {past : List Event} {stage later : Stage} {event : Event}

end Stage

namespace Passes

variable {isStopped : List Event → Bool} {events before after : List Event}
  {stage last : Stage} {event : Event}

end Passes

/-! ## Turns -/

namespace Event

/-- A view of events that sees nothing of what happens in turns and between them. -/
def outward? (event : Event) : Option Event :=
  if event.isOfCourse then none else some event

theorem ofDeeds_outward? : OfDeeds outward? :=
  ⟨fun _ => rfl, fun _ _ => rfl, rfl, fun _ => rfl⟩

theorem isOfCourse_of_outward? {events : List Event} (h : events.filterMap outward? = []) :
    ∀ event ∈ events, event.isOfCourse = true := by
  intro event hevent
  have hnone : outward? event = none := List.filterMap_eq_nil_iff.1 h event hevent
  by_cases hcourse : event.isOfCourse = true
  · exact hcourse
  · simp [outward?, hcourse] at hnone

end Event

namespace Cycle.Agent

variable {σ γ : Type} [Json.Nesting]

omit [Json.Nesting] in
theorem inward_outward? : Inward Event.outward? :=
  ⟨fun _ => rfl, fun _ => rfl, rfl⟩

theorem outward_turn (agent : Agent σ γ) (state : State σ γ) :
    (agent.turn state).events.filterMap Event.outward? = [] :=
  filterMap_turn_eq_nil Event.ofDeeds_outward? (fun _ => rfl) (fun _ => rfl) agent state

theorem outward_courseFrom (agent : Agent σ γ) (conditions : Conditions) (limit : Nat)
    (start : State σ γ) (before : List Event) :
    ∃ after, (agent.courseFrom conditions limit start 0 before).trace = before ++ after ∧
      ∀ event ∈ after, event.isOfCourse = true := by
  obtain ⟨after, htrace, hview⟩ :=
    courseFrom_trace inward_outward? agent conditions limit start 0 before
  refine ⟨after, htrace, Event.isOfCourse_of_outward? ?_⟩
  rw [hview, List.flatMap_eq_nil_iff]
  intro turn hturn
  obtain ⟨place, hplace⟩ := List.mem_iff_getElem?.1 hturn
  have hat : turn = agent.turn (agent.stateAt conditions.edits start (0 + place)) :=
    courseFrom_turn_at hplace
  rw [hat, outward_turn]

end Cycle.Agent

/-! ## Runs -/

namespace Supply

variable {γ : Type} {supply : Supply γ}

/-- A backend that is given counts as something where it is tested, as an object does that does not
say otherwise. -/
def Counts (supply : Supply γ) : Prop :=
  ∀ given, supply.given? = some given → given.isTrue = true

theorem isMade_of_isReturned (h : supply.isReturned = true) : supply.isMade = true := by
  rw [isMade, Option.isNone_iff_eq_none.1 h]

/-- If what is given counts, a backend is made only where none was given. -/
theorem Counts.isReturned (h : supply.Counts) (hmade : supply.isMade = true) :
    supply.isReturned = true := by
  unfold Supply.isReturned
  unfold isMade at hmade
  cases hgiven : supply.given? with
  | none => rfl
  | some given => simp [hgiven, h given hgiven] at hmade

end Supply

namespace Session

variable {σ γ : Type} {session : Session σ γ} {conditions : Conditions}
  {isStopped : List Event → Bool} {trace : List Event} {stage : Stage}

section Runs

variable [Json.Nesting]

end Runs

/-! ## Giving back -/

/-- The run gets as far as having a backend: the header of its diary is kept, and nothing keeps the
backend from being made, if it has to be. -/
def GetsBackend (session : Session σ γ) : Prop :=
  session.agent.hitch? 0 = none ∧ session.supply.obstacle? = none

/-- The run makes its backend: the header of its diary is kept, no backend was given that counts,
and nothing keeps one from being made. -/
def MakesBackend (session : Session σ γ) : Prop :=
  session.agent.hitch? 0 = none ∧ session.supply.isMade = true ∧
    session.supply.made.obstacle? = none

/-- No backend was given, and the one that is used holds something that is to be given back. -/
def OwesBackend (session : Session σ γ) : Prop :=
  session.supply.isReturned = true ∧ session.agent.backend.closes = true

instance (session : Session σ γ) : Decidable session.OwesBackend :=
  inferInstanceAs (Decidable (_ ∧ _))

theorem GetsBackend.makes (h : session.GetsBackend) (howes : session.OwesBackend) :
    session.MakesBackend := by
  obtain ⟨hkept, hnothing⟩ := h
  have hmade := Supply.isMade_of_isReturned howes.1
  rw [Supply.obstacle?, if_pos hmade] at hnothing
  exact ⟨hkept, hmade, hnothing⟩

theorem released_of_not_owes (session : Session σ γ) {finish : Finish σ γ}
    (h : finish.ending = .unfinished ∨ ¬ session.OwesBackend) :
    session.released finish = finish := by
  unfold released
  split
  · rfl
  · rcases h with hending | howes
    · contradiction
    · exact if_neg (by simpa [OwesBackend] using howes)

section Runs

variable [Json.Nesting]

end Runs

/-! ## Every run -/

section Owning

attribute [local instance] Json.Nesting.usual

end Owning

end Session

end Rulebound
