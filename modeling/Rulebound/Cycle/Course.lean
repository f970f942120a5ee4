import Rulebound.Cycle.Turn

/-!
# Courses of turns

Turns one after another. After each turn its record is handed over; whoever receives it may change
the rules, may fail, and may ask to stop. A course ends when enough turns were taken, when it is
asked to stop, or when a turn is left without a record or something outside of a turn fails.
-/

namespace Rulebound.Cycle

variable {σ γ : Type}

/-- What decides about a course from outside. -/
structure Conditions where
  /-- After how many turns the course ends. At least one turn is taken. -/
  turns : Option Int := none
  /-- Seconds between turns. -/
  interval : Binary64 := 0
  /-- Whether the course has been asked to stop, after some events. -/
  isStopped : List Event → Bool := fun _ => false
  /-- The changes of the rules after a number of turns. -/
  edits : Nat → List RuleEdit := fun _ => []
  /-- The fault of whoever receives the record of a turn, given the number of that turn. -/
  objection : Nat → Record → Option Fault := fun _ _ => none

namespace Conditions

/-- A stop that is asked for at a moment is asked for ever after. -/
def StopLasts (conditions : Conditions) : Prop :=
  ∀ before after, conditions.isStopped before = true →
    conditions.isStopped (before ++ after) = true

def isEnough (conditions : Conditions) (done : Nat) : Bool :=
  match conditions.turns with
  | some turns => turns ≤ done
  | none => false

/-- The first number of seconds that is too large for a clock that counts nanoseconds in 63
bits. -/
def longestDelay : Binary64 := Binary64.ofRatio (pow2 63) (pow10 9)

def delayFault? (conditions : Conditions) : Option Fault :=
  if longestDelay.le conditions.interval then
    some ⟨.overflow, some "timestamp too large to convert to C _PyTime_t", ""⟩
  else none

end Conditions

inductive Ending where
  /-- Enough turns were taken. -/
  | finished
  | stopped
  | faulted (fault : Fault)
  /-- More turns would follow than were looked at. -/
  | unfinished
deriving DecidableEq, Repr

/-- A course: where it leads, its turns, everything that happened, and how it ends. -/
structure Course (σ γ : Type) where
  state : State σ γ
  turns : List (Turn σ γ)
  trace : List Event
  ending : Ending

def applyEdits (book : RuleBook) : List RuleEdit → RuleBook × List Log.Line
  | [] => (book, [])
  | edit :: rest =>
      let (last, logs) := applyEdits (edit.apply book) rest
      (last, edit.logs book ++ logs)

/-- Where a course has got to, and how it ends if it ends there. -/
structure Reached (σ γ : Type) where
  state : State σ γ
  trace : List Event
  ending? : Option Ending

namespace Conditions

/-- The delay before another turn, unless enough turns were taken or the course is asked to stop
before or after it. -/
def wait (conditions : Conditions) (done : Nat) (trace : List Event) :
    List Event × Option Ending :=
  if conditions.isEnough done then (trace, some .finished)
  else if conditions.isStopped trace then (trace, some .stopped)
  else
    match conditions.delayFault? with
    | some fault => (trace, some (.faulted fault))
    | none =>
        let waited := trace ++ [.pause]
        (waited, if conditions.isStopped waited then some .stopped else none)

/-- What follows a turn: its record is handed over, the rules are changed, and there is a delay.
The number of turns so far counts this one. -/
def reach (conditions : Conditions) (turn : Turn σ γ) (done : Nat) (trace : List Event) :
    Reached σ γ :=
  match turn.record with
  | .error fault => ⟨turn.state, trace ++ turn.events, some (.faulted fault)⟩
  | .ok record =>
      let handed := trace ++ turn.events ++ [.hand record]
      match conditions.objection done record with
      | some fault => ⟨turn.state, handed, some (.faulted fault)⟩
      | none =>
          let (book, logs) := applyEdits turn.state.book (conditions.edits done)
          let (waited, ending?) := conditions.wait done (handed ++ Event.notes logs)
          ⟨{ turn.state with book }, waited, ending?⟩

end Conditions

namespace Agent

variable [Json.Nesting]

/-- The course from a state in which a turn is due, given how many turns there were and what
happened before. At most `limit` turns are looked at. -/
def courseFrom (agent : Agent σ γ) (conditions : Conditions) :
    Nat → State σ γ → Nat → List Event → Course σ γ
  | 0, state, _, trace => ⟨state, [], trace, .unfinished⟩
  | limit + 1, state, done, trace =>
      let turn := agent.turn state
      let reached := conditions.reach turn (done + 1) trace
      match reached.ending? with
      | some ending => ⟨reached.state, [turn], reached.trace, ending⟩
      | none =>
          let rest := agent.courseFrom conditions limit reached.state (done + 1) reached.trace
          { rest with turns := turn :: rest.turns }

def course (agent : Agent σ γ) (conditions : Conditions) (limit : Nat) (state : State σ γ)
    (before : List Event) : Course σ γ :=
  if conditions.isStopped before then ⟨state, [], before, .stopped⟩
  else agent.courseFrom conditions limit state 0 before

end Agent

end Rulebound.Cycle
