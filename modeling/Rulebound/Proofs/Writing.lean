import Rulebound.Proofs.Turn
import Rulebound.Proofs.Writable

/-!
# What a turn writes

Of a turn, the diary is due the fault that it caught, its record, and what was said in it. They are
written one after another, and a fault of the operating system loses the entry that it meets and no
other one. Only a record can be without a text, and then the turn is left without it.
-/

namespace Rulebound

/-! ## Writings -/

namespace Event

/-- The entry of an event by which one is written, and whether it was kept. -/
def written? : Event → Option (Diary.Entry × Bool)
  | write entry kept => some (entry, kept)
  | _ => none

def writes (events : List Event) : List (Diary.Entry × Bool) :=
  events.filterMap written?

@[simp] theorem writes_nil : writes [] = [] := rfl

@[simp] theorem writes_append (first later : List Event) :
    writes (first ++ later) = writes first ++ writes later :=
  List.filterMap_append

@[simp] theorem writes_log (line : Log.Line) (rest : List Event) :
    writes (.log line :: rest) = writes rest := rfl

@[simp] theorem writes_observe (rest : List Event) : writes (.observe :: rest) = writes rest := rfl

@[simp] theorem writes_generate (prompt : Prompt) (rest : List Event) :
    writes (.generate prompt :: rest) = writes rest := rfl

@[simp] theorem writes_dispatch (action : Action) (rest : List Event) :
    writes (.dispatch action :: rest) = writes rest := rfl

@[simp] theorem writes_calls (calls : List Call) : writes (calls.map .call) = [] := by
  induction calls with
  | nil => rfl
  | cons call rest ih => exact ih

@[simp] theorem writes_notes (logs : List Log.Line) : writes (notes logs) = [] := by
  induction logs with
  | nil => rfl
  | cons line rest ih => exact ih

theorem entries_eq_writes (events : List Event) :
    entries events = ((writes events).filter (·.2)).map (·.1) := by
  induction events with
  | nil => rfl
  | cons event rest ih =>
      unfold entries writes at ih ⊢
      cases event with
      | write entry kept =>
          cases kept with
          | true => exact congrArg (entry :: ·) ih
          | false => exact ih
      | _ => exact ih

theorem mem_entries {events : List Event} {entry : Diary.Entry} :
    entry ∈ entries events ↔ (entry, true) ∈ writes events := by
  rw [entries_eq_writes, List.mem_map]
  constructor
  · rintro ⟨⟨other, kept⟩, hmem, rfl⟩
    obtain ⟨hwritten, hflag⟩ := List.mem_filter.1 hmem
    obtain rfl : kept = true := hflag
    exact hwritten
  · exact fun h => ⟨_, List.mem_filter.2 ⟨h, rfl⟩, rfl⟩

end Event

namespace Cycle

variable {σ γ : Type}

/-- The number of a turn can be written, and so can how many of each item is seen in it. -/
def Turn.IsCountable (turn : Turn σ γ) : Prop :=
  IsShort turn.state.tick ∧
    ∀ seen, turn.attempt.observation? = some seen → seen.IsCountable

instance (turn : Turn σ γ) : Decidable turn.IsCountable :=
  inferInstanceAs (Decidable (_ ∧ ∀ seen ∈ turn.attempt.observation?, seen.IsCountable))

section Parts

variable {first : Written} {next : Nat → Written}

theorem Written.andThen_of_none (h : first.fault? = none) :
    first.andThen next =
      { next first.writes with events := first.events ++ (next first.writes).events } := by
  unfold andThen
  rw [h]

theorem Written.mem_writes_andThen {written : Diary.Entry × Bool}
    (h : written ∈ Event.writes (first.andThen next).events) :
    written ∈ Event.writes first.events ∨
      ∃ writes, written ∈ Event.writes (next writes).events := by
  unfold Written.andThen at h
  cases hfault : first.fault? with
  | some fault => exact .inl (by simpa [hfault] using h)
  | none =>
      have hsplit : written ∈ Event.writes first.events ∨
          written ∈ Event.writes (next first.writes).events := by
        simpa [hfault] using h
      exact hsplit.imp_right fun hlater => ⟨_, hlater⟩

end Parts

namespace Agent

variable {agent : Agent σ γ} {state : State σ γ} {path : Path}

/-- The agent with a diary of its own, or none, and writings to it that are held up. -/
def keeping (agent : Agent σ γ) (diary? : Option Path) (hitch? : Nat → Option Hitch) :
    Agent σ γ :=
  { agent with diary?, hitch? }

/-- Entries that are written where so many were written before, each with whether it is kept. -/
def marked (agent : Agent σ γ) (writes : Nat) (entries : List Diary.Entry) :
    List (Diary.Entry × Bool) :=
  (entries.zipIdx writes).map fun (entry, place) => (entry, (agent.hitch? place).isNone)

theorem marked_append (agent : Agent σ γ) (writes : Nat) (first later : List Diary.Entry) :
    agent.marked writes (first ++ later) =
      agent.marked writes first ++ agent.marked (writes + first.length) later := by
  simp [marked, List.zipIdx_append]

theorem map_fst_marked (agent : Agent σ γ) (writes : Nat) (entries : List Diary.Entry) :
    (agent.marked writes entries).map (·.1) = entries := by
  unfold marked
  rw [List.map_map]
  exact List.zipIdx_map_fst writes entries

theorem kept_marked (h : ∀ writes, agent.hitch? writes = none) (writes : Nat)
    (entries : List Diary.Entry) :
    ((agent.marked writes entries).filter (·.2)).map (·.1) = entries := by
  induction entries generalizing writes with
  | nil => rfl
  | cons entry rest ih =>
      have hsplit : agent.marked writes (entry :: rest) =
          (entry, (agent.hitch? writes).isNone) :: agent.marked (writes + 1) rest := rfl
      rw [hsplit, h, Option.isNone_none, List.filter_cons_of_pos rfl, List.map_cons, ih]

def caught (now : Instant) (fault? : Option Fault) : List Diary.Entry :=
  fault?.toList.map (.error now faultMessage)

/-- The entries that the diary is due of a turn. -/
def due (agent : Agent σ γ) (turn : Turn σ γ) : List Diary.Entry :=
  caught (agent.clock turn.state.tick) turn.attempt.fault? ++
    match turn.record with
    | .ok record => agent.entriesOf (agent.clock turn.state.tick) record
    | .error _ => []

/-! ## Nothing is written before the turn is over -/

theorem writes_act (agent : Agent σ γ) (book : RuleBook) (world : σ) (seen : Observation)
    (reply : Reply) (action : Action) :
    Event.writes (agent.act book world seen reply action).2.2 = [] := by
  unfold act
  cases book.judge action with
  | denied reason => simp
  | permitted => simp

theorem writes_follow (agent : Agent σ γ) (book : RuleBook) (world : σ) (seen : Observation)
    (reply : Reply) : Event.writes (agent.follow book world seen reply).2.2 = [] := by
  unfold follow
  cases reply.action? with
  | error fault => rfl
  | ok action? =>
      cases action? with
      | none => exact Event.writes_notes _
      | some action => exact writes_act ..

theorem writes_attempt (agent : Agent σ γ) (state : State σ γ) :
    Event.writes (agent.attempt state).events = [] := by
  rcases attempt_cases agent state with ⟨fault, hunseen⟩ | ⟨seen, fault, hseen, hunasked⟩ |
    ⟨seen, prompt, fault, hasks, hunanswered⟩ | ⟨seen, prompt, reply, hasks, hheard⟩
  · rw [attempt_of_unseen hunseen]
    simp
  · rw [attempt_of_unasked hseen hunasked]
    simp
  · rw [attempt_of_unanswered hasks hunanswered]
    simp
  · rw [attempt_of_heard hasks hheard]
    simp [writes_follow]

/-! ## One entry -/

variable [Json.Nesting] {writes : Nat} {entry : Diary.Entry}

/-- Nothing but a fault of the operating system can come of writing an entry: there is no diary, or
it is not even opened, or the entry has a text. -/
def Bears (agent : Agent σ γ) (writes : Nat) (entry : Diary.Entry) : Prop :=
  agent.diary? = none ∨ agent.hitch? writes = some .opening ∨ entry.IsWritable

theorem Bears.of_isWritable (h : entry.IsWritable) : agent.Bears writes entry :=
  .inr (.inr h)

theorem write_eq_ok (h : entry.IsWritable) :
    Json.write entry.toJson = .ok (Json.print entry.toJson) := by
  unfold Json.write
  rw [h]

theorem write_eq_error (h : ¬ entry.IsWritable) :
    ∃ reason : Json.Unwritable, Json.write entry.toJson = .error reason.fault := by
  obtain ⟨reason, hreason⟩ := Option.ne_none_iff_exists'.1 h
  refine ⟨reason, ?_⟩
  unfold Json.write
  rw [hreason]

/-- Nothing keeps an entry out of the diary that has a text and whose writing is not held up. -/
theorem obstruction?_eq_none_iff :
    agent.obstruction? writes entry = none ↔ agent.hitch? writes = none ∧ entry.IsWritable := by
  unfold obstruction?
  by_cases hwritable : entry.IsWritable
  · rw [write_eq_ok hwritable]
    cases agent.hitch? writes with
    | none => simp [hwritable]
    | some hitch => cases hitch <;> simp
  · obtain ⟨reason, hreason⟩ := write_eq_error hwritable
    rw [hreason]
    cases agent.hitch? writes with
    | none => simp [hwritable]
    | some hitch => cases hitch <;> simp

/-- An entry that passes is written, and kept unless its writing is held up. -/
theorem write_of_bears (hdiary : agent.diary? = some path) (h : agent.Bears writes entry) :
    (agent.write writes entry).fault? = none ∧
      Event.writes (agent.write writes entry).events = agent.marked writes [entry] ∧
      (agent.write writes entry).writes = writes + 1 := by
  have hsystem : lostEntry.kind.isSystem = true := rfl
  have hheld : agent.hitch? writes = none ∧ agent.obstruction? writes entry = none ∨
      (agent.hitch? writes).isNone = false ∧
        agent.obstruction? writes entry = some lostEntry := by
    rcases h with hnone | hopening | hwritable
    · exact nomatch hdiary.symm.trans hnone
    · exact .inr ⟨by rw [hopening]; rfl, by simp [obstruction?, hopening]⟩
    · cases hhitch : agent.hitch? writes with
      | none => exact .inl ⟨rfl, obstruction?_eq_none_iff.2 ⟨hhitch, hwritable⟩⟩
      | some hitch =>
          refine .inr ⟨rfl, ?_⟩
          unfold obstruction?
          rw [hhitch, write_eq_ok hwritable]
          cases hitch <;> rfl
  unfold write
  rw [hdiary]
  rcases hheld with ⟨hhitch, hnone⟩ | ⟨hhitch, hsome⟩
  · simp [hnone, marked, hhitch, Event.writes, Event.written?]
  · simp [hsome, hsystem, marked, hhitch, Event.writes, Event.written?]

theorem write_of_not_bears (h : ¬ agent.Bears writes entry) :
    ∃ fault, agent.write writes entry = ⟨writes + 1, [.write entry false], some fault⟩ := by
  unfold Bears at h
  rw [not_or, not_or] at h
  obtain ⟨hdiary, hopening, hwritable⟩ := h
  obtain ⟨path, hpath⟩ := Option.ne_none_iff_exists'.1 hdiary
  obtain ⟨reason, hreason⟩ := write_eq_error hwritable
  have hfault : agent.obstruction? writes entry = some reason.fault := by
    unfold obstruction?
    rw [hreason]
    cases hhitch : agent.hitch? writes with
    | none => rfl
    | some hitch =>
        cases hitch with
        | opening => exact absurd hhitch hopening
        | writing => rfl
  refine ⟨reason.fault, ?_⟩
  unfold write
  rw [hpath]
  dsimp only
  rw [hfault]
  cases reason <;> rfl

/-! ## All entries of a turn -/

theorem writeAll_of_bears (hdiary : agent.diary? = some path) {rest : List Diary.Entry}
    (h : agent.Bears writes entry) (hrest : ∀ other ∈ rest, other.IsWritable) :
    (agent.writeAll writes (entry :: rest)).fault? = none ∧
      Event.writes (agent.writeAll writes (entry :: rest)).events =
        agent.marked writes (entry :: rest) ∧
      (agent.writeAll writes (entry :: rest)).writes = writes + (entry :: rest).length := by
  induction rest generalizing writes entry with
  | nil =>
      obtain ⟨hcalm, hwritten, hcount⟩ := write_of_bears hdiary h
      rw [writeAll, Written.andThen_of_none hcalm]
      exact ⟨rfl, by rw [Event.writes_append, hwritten]; rfl, hcount⟩
  | cons other rest ih =>
      rw [List.forall_mem_cons] at hrest
      obtain ⟨hcalm, hwritten, hcount⟩ := write_of_bears hdiary h
      have hnext : agent.Bears (writes + 1) other := .of_isWritable hrest.1
      obtain ⟨hcalmer, hlater, htotal⟩ := ih hnext hrest.2
      have hsplit : agent.marked writes (entry :: other :: rest) =
          agent.marked writes [entry] ++ agent.marked (writes + 1) (other :: rest) :=
        marked_append agent writes [entry] (other :: rest)
      rw [writeAll, Written.andThen_of_none hcalm, hcount]
      refine ⟨hcalmer, ?_, ?_⟩
      · rw [Event.writes_append, hwritten, hlater, hsplit]
      · dsimp only
        rw [htotal, List.length_cons, List.length_cons, List.length_cons]
        omega

/-- The fault that a turn caught can always be written. -/
theorem writeFault_fault? (agent : Agent σ γ) (writes : Nat) (now : Instant)
    (fault? : Option Fault) : (agent.writeFault writes now fault?).fault? = none := by
  cases fault? with
  | none => rfl
  | some fault =>
      have hsame : (agent.writeFault writes now (some fault)).fault? =
          (agent.write writes (.error now faultMessage fault)).fault? := rfl
      rw [hsame]
      cases hdiary : agent.diary? with
      | none => simp [write, hdiary]
      | some path =>
          exact (write_of_bears hdiary (.of_isWritable (Diary.Entry.isWritable_error ..))).1

theorem writes_writeFault (hdiary : agent.diary? = some path) (writes : Nat) (now : Instant)
    (fault? : Option Fault) :
    Event.writes (agent.writeFault writes now fault?).events =
        agent.marked writes (caught now fault?) ∧
      (agent.writeFault writes now fault?).writes = writes + (caught now fault?).length := by
  cases fault? with
  | none => exact ⟨rfl, rfl⟩
  | some fault =>
      exact (write_of_bears hdiary (.of_isWritable (Diary.Entry.isWritable_error ..))).2

/-- How many times the diary was written to when a turn comes to its record. -/
def recordPlace (agent : Agent σ γ) (state : State σ γ) : Nat :=
  (agent.writeFault state.writes (agent.clock (state.tick + 1))
    (agent.attempt state).attempt.fault?).writes

theorem isWritable_said {now : Instant} {record : Record} :
    ∀ other ∈ ((spoken? record).toList.map fun (message : String) =>
      Diary.Entry.event now "chat"
        (.object [("from", .string agent.profile.name), ("message", .string message)])),
      other.IsWritable := by
  intro other hother
  obtain ⟨message, -, rfl⟩ := List.mem_map.1 hother
  obtain ⟨room, hroom⟩ := Diary.Entry.fieldLevels_eq
  rw [Diary.Entry.isWritable_event_iff, hroom]
  simp

theorem writtenOf_eq (agent : Agent σ γ) (state : State σ γ) :
    agent.writtenOf state =
      { agent.writeTurn (agent.recordPlace state) (agent.clock (state.tick + 1))
          (agent.recordOf state) with
        events := (agent.writeFault state.writes (agent.clock (state.tick + 1))
          (agent.attempt state).attempt.fault?).events ++
            (agent.writeTurn (agent.recordPlace state) (agent.clock (state.tick + 1))
              (agent.recordOf state)).events } :=
  Written.andThen_of_none (writeFault_fault? ..)

/-- A turn has a record exactly if it can be recorded and its record passes. -/
theorem turn_record_iff_passes {record : Record} :
    (agent.turn state).record = .ok record ↔
      agent.recordOf state = .ok record ∧
        agent.Bears (agent.recordPlace state) (.cycle record) := by
  rw [turn_record_iff]
  refine and_congr_right fun hrecord => ?_
  rw [writtenOf_eq, hrecord]
  show (agent.writeAll _ (_ :: _)).fault? = none ↔ _
  constructor
  · intro hcalm
    apply Classical.byContradiction
    intro hlost
    obtain ⟨fault, hwrite⟩ := write_of_not_bears hlost
    rw [writeAll, hwrite] at hcalm
    exact nomatch hcalm
  · intro hbears
    cases hdiary : agent.diary? with
    | none =>
        have hnone : ∀ entries writes, (agent.writeAll writes entries).fault? = none := by
          intro entries
          induction entries with
          | nil => exact fun _ => rfl
          | cons entry rest ih =>
              intro writes
              have hwrite : (agent.write writes entry).fault? = none := by simp [write, hdiary]
              rw [writeAll, Written.andThen_of_none hwrite]
              exact ih _
        exact hnone _ _
    | some path => exact (writeAll_of_bears hdiary hbears isWritable_said).1

theorem isWritable_recordOf_iff {record : Record} (h : agent.recordOf state = .ok record) :
    (Diary.Entry.cycle record).IsWritable ↔ (agent.turn state).IsCountable := by
  obtain ⟨reasoning, -, rfl⟩ := Attempt.exists_reasoning h
  exact Diary.Entry.isWritable_cycle_iff

/-- All entries about a turn are written, or a fault ends the writing at its record. -/
theorem writes_writeTurn (hdiary : agent.diary? = some path) (writes : Nat) (now : Instant)
    (result : Except Fault Record) :
    (∃ record, result = .ok record ∧ (agent.writeTurn writes now result).fault? = none ∧
      Event.writes (agent.writeTurn writes now result).events =
        agent.marked writes (agent.entriesOf now record) ∧
      (agent.writeTurn writes now result).writes =
        writes + (agent.entriesOf now record).length) ∨
    ∃ fault lost, (agent.writeTurn writes now result).fault? = some fault ∧
      Event.writes (agent.writeTurn writes now result).events = lost ∧
      (agent.writeTurn writes now result).writes = writes + lost.length ∧
      (∀ written ∈ lost, written.2 = false) ∧
      ((∀ record, result = .ok record → (Diary.Entry.cycle record).IsWritable) → lost = []) := by
  cases result with
  | error fault => exact .inr ⟨fault, [], rfl, rfl, rfl, List.forall_mem_nil _, fun _ => rfl⟩
  | ok record =>
      by_cases hbears : agent.Bears writes (.cycle record)
      · exact .inl ⟨record, rfl, writeAll_of_bears hdiary hbears isWritable_said⟩
      · obtain ⟨fault, hwrite⟩ := write_of_not_bears hbears
        have hlost : agent.writeTurn writes now (.ok record) =
            ⟨writes + 1, [.write (.cycle record) false], some fault⟩ := by
          unfold writeTurn entriesOf writeAll
          dsimp only
          rw [hwrite]
          rfl
        rw [hlost]
        exact .inr ⟨fault, [(.cycle record, false)], rfl, rfl, rfl,
          List.forall_mem_singleton.2 rfl,
          fun hwritable => absurd (.of_isWritable (hwritable record rfl)) hbears⟩

/-- What is written of a turn is due of it, but for a record that does not pass. -/
theorem writes_turn (hdiary : agent.diary? = some path) (state : State σ γ) :
    ∃ lost, Event.writes (agent.turn state).events =
        agent.marked state.writes (agent.due (agent.turn state)) ++ lost ∧
      (agent.turn state).state.writes =
        state.writes + (agent.due (agent.turn state)).length + lost.length ∧
      (∀ written ∈ lost, written.2 = false) ∧
      ((agent.turn state).IsCountable → lost = []) ∧
      ∀ record, (agent.turn state).record = .ok record → lost = [] := by
  obtain ⟨hcaught, hplace⟩ := writes_writeFault hdiary state.writes
    (agent.clock (state.tick + 1)) (agent.attempt state).attempt.fault?
  have htotal : (agent.turn state).state.writes = (agent.writtenOf state).writes := rfl
  have hdue : agent.due (agent.turn state) =
      caught (agent.clock (state.tick + 1)) (agent.attempt state).attempt.fault? ++
        match (agent.turn state).record with
        | .ok record => agent.entriesOf (agent.clock (state.tick + 1)) record
        | .error _ => [] := rfl
  rw [htotal, hdue, turn_record, turn_events, Event.writes_append, writes_attempt, writtenOf_eq,
    Event.writes_append, hcaught, List.nil_append]
  dsimp only
  rw [show agent.recordPlace state = _ from hplace]
  rcases writes_writeTurn hdiary _ (agent.clock (state.tick + 1)) (agent.recordOf state) with
    ⟨record, hrecord, hcalm, hwritten, hcount⟩ |
    ⟨fault, lost, hfault, hwritten, hcount, hlost, hnone⟩
  · rw [hcalm, hwritten, hcount, hrecord]
    refine ⟨[], ?_, ?_, List.forall_mem_nil _, fun _ => rfl, fun _ _ => rfl⟩
    · simp [marked_append]
    · simp [Nat.add_assoc]
  · rw [hfault, hwritten, hcount]
    refine ⟨lost, ?_, ?_, hlost, fun hcountable => hnone fun record hrecord => ?_,
      fun _ h => nomatch h⟩
    · simp
    · simp
    · exact (isWritable_recordOf_iff hrecord).2 hcountable

theorem entries_turn (hdiary : agent.diary? = some path)
    (hkept : ∀ writes, agent.hitch? writes = none) (state : State σ γ) :
    Event.entries (agent.turn state).events = agent.due (agent.turn state) := by
  obtain ⟨lost, hwritten, -, hlost, -, -⟩ := writes_turn hdiary state
  have hnone : lost.filter (·.2) = [] :=
    List.filter_eq_nil_iff.2 fun written hmem => by simp [hlost written hmem]
  rw [Event.entries_eq_writes, hwritten, List.filter_append, hnone, List.append_nil,
    kept_marked hkept]

/-! ## Nothing is kept that has no text -/

section Kept

variable {other : Diary.Entry}

theorem isWritable_of_mem_write
    (h : (entry, true) ∈ Event.writes (agent.write writes other).events) : entry.IsWritable := by
  unfold write at h
  cases hdiary : agent.diary? with
  | none => simp [hdiary] at h
  | some path =>
      cases hobstruction : agent.obstruction? writes other with
      | none =>
          have hsame : entry = other := by
            simpa [hdiary, hobstruction, Event.writes, Event.written?] using h
          exact hsame ▸ (obstruction?_eq_none_iff.1 hobstruction).2
      | some fault =>
          cases hsystem : fault.kind.isSystem <;>
            simp [hdiary, hobstruction, hsystem, Event.writes, Event.written?] at h

theorem isWritable_of_mem_writeAll {entries : List Diary.Entry}
    (h : (entry, true) ∈ Event.writes (agent.writeAll writes entries).events) :
    entry.IsWritable := by
  induction entries generalizing writes with
  | nil => exact absurd h List.not_mem_nil
  | cons other rest ih =>
      rcases Written.mem_writes_andThen h with hfirst | ⟨_, hlater⟩
      · exact isWritable_of_mem_write hfirst
      · exact ih hlater

theorem isWritable_of_mem_writes_turn
    (h : (entry, true) ∈ Event.writes (agent.turn state).events) : entry.IsWritable := by
  rw [turn_events, Event.writes_append, writes_attempt, List.nil_append] at h
  rcases Written.mem_writes_andThen h with hcaught | ⟨_, hrecorded⟩
  · cases hfault : (agent.attempt state).attempt.fault? with
    | none => simp [hfault, writeFault] at hcaught
    | some fault =>
        rw [hfault] at hcaught
        exact isWritable_of_mem_write hcaught
  · cases hrecord : agent.recordOf state with
    | error fault => simp [hrecord, writeTurn] at hrecorded
    | ok record =>
        rw [hrecord] at hrecorded
        exact isWritable_of_mem_writeAll hrecorded

end Kept

/-! ## Turns that are recorded -/

/-- A turn without a diary, or of which everything can be written, is recorded if its answer can
be. -/
theorem turn_record_of_isCountable (h : agent.diary? = none ∨ (agent.turn state).IsCountable) :
    (agent.turn state).record = agent.recordOf state := by
  cases hrecord : agent.recordOf state with
  | error fault =>
      rw [turn_record, writtenOf_eq, hrecord]
      rfl
  | ok record =>
      refine turn_record_iff_passes.2 ⟨hrecord, ?_⟩
      rcases h with hnone | hcount
      · exact .inl hnone
      · exact .of_isWritable ((isWritable_recordOf_iff hrecord).2 hcount)

/-- A turn is recorded whose reply, if there is one, is a text or nothing, unless there is a diary
and something of it cannot be written. -/
theorem exists_record (h : agent.HearsWords state)
    (hcount : agent.diary? = none ∨ (agent.turn state).IsCountable) :
    ∃ record, (agent.turn state).record = .ok record := by
  rw [turn_record_of_isCountable hcount]
  exact exists_recordOf h

/-- A turn of which something cannot be written is left without a record by a diary that can be
opened. -/
theorem turn_record_of_not_isCountable (hdiary : agent.diary? = some path)
    (hopening : ∀ writes, agent.hitch? writes ≠ some .opening)
    (h : ¬ (agent.turn state).IsCountable) :
    ∃ fault, (agent.turn state).record = .error fault := by
  cases hrecord : (agent.turn state).record with
  | error fault => exact ⟨fault, rfl⟩
  | ok record =>
      obtain ⟨hmade, hnone | hheld | hwritable⟩ := turn_record_iff_passes.1 hrecord
      · exact nomatch hdiary.symm.trans hnone
      · exact absurd hheld (hopening _)
      · exact absurd ((isWritable_recordOf_iff hmade).1 hwritable) h

end Agent

end Cycle

end Rulebound
