import Rulebound.Backend
import Rulebound.Cycle.Attempt
import Rulebound.Cycle.Event
import Rulebound.Dispatch
import Rulebound.Rule.Book

/-!
# Turns

One turn of an agent: it looks around, asks its model what to do, and does it unless a rule
forbids it. Whatever goes wrong on the way ends the turn early and not the run. Every turn is
written to the diary. A diary that cannot be opened or written to is noted and changes nothing else;
an entry that has no text, and an answer that cannot be recorded, leave the turn without a record.
-/

namespace Rulebound.Cycle

variable {σ γ : Type}

/-- Where the writing of an entry is held up. -/
inductive Hitch where
  | opening
  | writing
deriving DecidableEq, Repr

structure Agent (σ γ : Type) where
  profile : Profile
  body : Body σ
  backend : Backend γ
  /-- Where the diary is, if one is kept. -/
  diary? : Option Path
  /-- Where each of its writings to the diary is held up, if it is. -/
  hitch? : Nat → Option Hitch := fun _ => none
  /-- The time at each turn. -/
  clock : Int → Instant

structure State (σ γ : Type) where
  world : σ
  backend : γ
  book : RuleBook
  /-- How many turns there were. -/
  tick : Int := 0
  /-- How many times the diary was written to. -/
  writes : Nat := 0

/-- How far a turn got, the states in which it left body and backend, and what happened. -/
structure Attempted (σ γ : Type) where
  attempt : Attempt
  world : σ
  backend : γ
  events : List Event

/-- A whole turn, with its record or the fault that left it without one. -/
structure Turn (σ γ : Type) where
  state : State σ γ
  attempt : Attempt
  record : Except Fault Record
  events : List Event

/-- The phases that a turn went through. Without a record it does not come to rest. -/
def Turn.phases (turn : Turn σ γ) : List Phase :=
  turn.attempt.working ++ .logging :: if turn.record.toBool then [.idle] else []

/-- The number of writings so far, what happened while writing, and the fault that ended it. -/
structure Written where
  writes : Nat
  events : List Event
  fault? : Option Fault := none

def Written.andThen (first : Written) (next : Nat → Written) : Written :=
  match first.fault? with
  | some _ => first
  | none =>
      let others := next first.writes
      { others with events := first.events ++ others.events }

namespace Agent

def actionLog (action : Action) : Log.Line :=
  .info ("Action: " ++ action.verb ++ " " ++ action.raw)

def act (agent : Agent σ γ) (book : RuleBook) (world : σ) (seen : Observation) (reply : Reply)
    (action : Action) : Attempt × σ × List Event :=
  let weighed := .log (actionLog action) :: Event.notes (book.judgeLogs action)
  match book.judge action with
  | .denied reason =>
      (.denied seen reply action reason, world,
        weighed ++ [.log (.info ("Blocked by rule: " ++ reason))])
  | .permitted =>
      let done := dispatch agent.body world action
      (.dispatched seen reply action done.ok, done.state,
        weighed ++ .dispatch action :: done.call?.toList.map .call ++ Event.notes done.logs)

def follow (agent : Agent σ γ) (book : RuleBook) (world : σ) (seen : Observation)
    (reply : Reply) : Attempt × σ × List Event :=
  match reply.action? with
  | .error fault => (.unreadable seen reply fault, world, [])
  | .ok none => (.unparsed seen reply, world, Event.notes reply.readingLogs)
  | .ok (some action) => agent.act book world seen reply action

/-- The part of a turn in which something can go wrong. -/
def attempt (agent : Agent σ γ) (state : State σ γ) : Attempted σ γ :=
  let sight := agent.body.observe state.world
  let looking := .observe :: Event.notes sight.logs
  match sight.result with
  | .error fault => ⟨.unseen fault, sight.state, state.backend, looking⟩
  | .ok seen =>
      match Prompt.make agent.profile state.book.texts seen with
      | .error fault => ⟨.unanswered seen fault, sight.state, state.backend, looking⟩
      | .ok prompt =>
          let answer := agent.backend.generate state.backend prompt
          let asking := looking ++ .generate prompt :: Event.notes answer.logs
          match answer.result with
          | .error fault => ⟨.unanswered seen fault, sight.state, answer.state, asking⟩
          | .ok reply =>
              let (attempt, world, events) := agent.follow state.book sight.state seen reply
              ⟨attempt, world, answer.state, asking ++ events⟩

/-! ## The diary -/

/-- The fault of a diary that cannot be opened or written to. -/
def lostEntry : Fault := ⟨.os, none, ""⟩

variable [Json.Nesting]

/-- What keeps an entry out of the diary: the diary is opened, the entry is given its text, and the
text is written. -/
def obstruction? (agent : Agent σ γ) (writes : Nat) (entry : Diary.Entry) : Option Fault :=
  match agent.hitch? writes, Json.write entry.toJson with
  | some .opening, _ => some lostEntry
  | _, .error fault => some fault
  | some .writing, .ok _ => some lostEntry
  | none, .ok _ => none

/-- Writing an entry to the diary, if one is kept. Of what can keep the entry out of it, the faults
of the operating system are noted, and any other ends the writing. -/
def write (agent : Agent σ γ) (writes : Nat) (entry : Diary.Entry) : Written :=
  match agent.diary? with
  | none => ⟨writes, [], none⟩
  | some path =>
      match agent.obstruction? writes entry with
      | none => ⟨writes + 1, [.write entry true], none⟩
      | some fault =>
          if fault.kind.isSystem then
            ⟨writes + 1, [.write entry false,
              .log (.error ("Could not write diary entry to " ++ path.text))], none⟩
          else ⟨writes + 1, [.write entry false], some fault⟩

def writeAll (agent : Agent σ γ) (writes : Nat) : List Diary.Entry → Written
  | [] => ⟨writes, [], none⟩
  | entry :: rest => (agent.write writes entry).andThen (agent.writeAll · rest)

def faultMessage : String := "Decision loop error"

def writeFault (agent : Agent σ γ) (writes : Nat) (now : Instant) : Option Fault → Written
  | none => ⟨writes, [], none⟩
  | some fault =>
      let written := agent.write writes (.error now faultMessage fault)
      { written with events := .log (.error faultMessage) :: written.events }

def spoken? (record : Record) : Option String :=
  match record.action with
  | some action => if action.verb = "chat" ∧ record.result.success then some action.raw else none
  | none => none

/-- The entries about a turn: its record, and an event if the agent said something. -/
def entriesOf (agent : Agent σ γ) (now : Instant) (record : Record) : List Diary.Entry :=
  .cycle record :: (spoken? record).toList.map fun (message : String) =>
    .event now "chat"
      (.object [("from", .string agent.profile.name), ("message", .string message)])

def writeTurn (agent : Agent σ γ) (writes : Nat) (now : Instant) :
    Except Fault Record → Written
  | .error fault => ⟨writes, [], some fault⟩
  | .ok record => agent.writeAll writes (agent.entriesOf now record)

def turn (agent : Agent σ γ) (state : State σ γ) : Turn σ γ :=
  let tick := state.tick + 1
  let now := agent.clock tick
  let tried := agent.attempt state
  let record := tried.attempt.record tick now.text agent.profile.goal
  let written := (agent.writeFault state.writes now tried.attempt.fault?).andThen
    (agent.writeTurn · now record)
  { state := ⟨tried.world, tried.backend, state.book, tick, written.writes⟩
    attempt := tried.attempt
    record := written.fault?.elim record .error
    events := tried.events ++ written.events }

end Agent

end Rulebound.Cycle
