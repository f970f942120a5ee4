import Rulebound.Proofs.Blocks
import Rulebound.Session

/-!
# What a run leaves in its diary

A diary that can be written to begins with a header. A run that could not start leaves at most the
reason after it. Any other run leaves the entries of its turns, numbered from one on, and when it
ends, however it ends, an event that counts them. Only a last turn can be left without its record.
-/

namespace Rulebound

open Rulebound.Cycle

variable {σ γ : Type}

namespace Event

theorem entries_append (first later : List Event) :
    entries (first ++ later) = entries first ++ entries later :=
  List.filterMap_append

theorem entries_notes (logs : List Log.Line) : entries (notes logs) = [] := by
  rw [entries_eq_writes, writes_notes]
  rfl

end Event

namespace Session

variable {session : Session σ γ} {conditions : Conditions} {world : σ} {backend : γ}

/-! ## Starting -/

def readyTrace (session : Session σ γ) (backend : γ) : List Event :=
  [.write session.header true] ++ Event.notes session.openingLogs ++ [.log session.awaitingLog] ++
    Event.notes (session.agent.backend.ready backend).logs ++ [.ready true]

theorem entries_readyTrace (session : Session σ γ) (backend : γ) :
    Event.entries (session.readyTrace backend) = [session.header] := by
  simp only [readyTrace, Event.entries_append, Event.entries_notes, List.append_nil]
  rfl

/-- A fault that keeps a run whose backend could be made from its first turn: the backend does not
become ready, or the body is asked to connect and does not. -/
inductive StartFault (session : Session σ γ) (conditions : Conditions) (world : σ) (backend : γ)
    (fault : Fault) : Prop
  | unready (h : (session.agent.backend.ready backend).result = .error fault)
  | unconnected (hready : (session.agent.backend.ready backend).result = .ok ())
      (hasked : conditions.isStopped (session.readyTrace backend) = false)
      (h : (session.agent.body.connect world).result = .error fault)

variable [Json.Nesting]

/-- What a run leaves in its diary after the header. -/
inductive Leaves (session : Session σ γ) (conditions : Conditions) (world : σ) (backend : γ)
    (finish : Finish σ γ) : List Diary.Entry → Prop
  /-- The backend or the body is unavailable. -/
  | unavailable {time : Instant} {fault : Fault}
      (hmade : session.supply.obstacle? = none)
      (hfault : session.StartFault conditions world backend fault)
      (hkind : fault.kind.isUnavailable = true) (hturns : finish.turns = [])
      (hresult : session.result finish = .error fault) :
      Leaves session conditions world backend finish [.error time "Startup failed" fault]
  /-- Another fault keeps the run from its first turn. -/
  | broken {fault : Fault}
      (hfault : session.supply.obstacle? = some fault ∨
        session.supply.obstacle? = none ∧
          session.StartFault conditions world backend fault ∧ fault.kind.isUnavailable = false)
      (hturns : finish.turns = []) (hresult : session.result finish = .error fault) :
      Leaves session conditions world backend finish []
  /-- The run starts, and ends after some turns or before any. -/
  | closed {entries : List Diary.Entry} {event : Diary.Entry}
      (hmade : session.supply.obstacle? = none)
      (hstarted : ∀ fault, ¬ session.StartFault conditions world backend fault)
      (hblocks : session.agent.Blocks 0 finish.turns entries)
      (hending : finish.ending ≠ .unfinished)
      (hevent : event.IsEvent "SHUTDOWN" (.object [("ticks", .int finish.turns.length)])) :
      Leaves session conditions world backend finish (entries ++ [event])
  /-- The run starts, and takes too many turns for their number to be written. -/
  | uncounted {entries : List Diary.Entry} (hmade : session.supply.obstacle? = none)
      (hstarted : ∀ fault, ¬ session.StartFault conditions world backend fault)
      (hblocks : session.agent.Blocks 0 finish.turns entries)
      (hlong : ¬ IsShort finish.turns.length)
      (hresult : ∃ fault, session.result finish = .error fault) :
      Leaves session conditions world backend finish entries
  /-- The run starts, and more turns follow than are looked at. -/
  | ongoing {entries : List Diary.Entry} (hmade : session.supply.obstacle? = none)
      (hstarted : ∀ fault, ¬ session.StartFault conditions world backend fault)
      (hblocks : session.agent.Blocks 0 finish.turns entries)
      (hending : finish.ending = .unfinished) :
      Leaves session conditions world backend finish entries

/-- What a run leaves is settled by its turns and its end. -/
theorem Leaves.of_same {first second : Finish σ γ} {rest : List Diary.Entry}
    (hturns : second.turns = first.turns) (hending : second.ending = first.ending)
    (h : session.Leaves conditions world backend first rest) :
    session.Leaves conditions world backend second rest := by
  have hresult : session.result second = session.result first := by
    unfold result
    rw [hending]
  cases h with
  | unavailable hmade hfault hkind hnone hfailed =>
      exact .unavailable hmade hfault hkind (hturns.trans hnone) (hresult.trans hfailed)
  | broken hfault hnone hfailed =>
      exact .broken hfault (hturns.trans hnone) (hresult.trans hfailed)
  | closed hmade hstarted hblocks hended hevent =>
      exact .closed hmade hstarted (hturns.symm ▸ hblocks) (hending ▸ hended) (hturns.symm ▸ hevent)
  | uncounted hmade hstarted hblocks hlong hfailed =>
      exact .uncounted hmade hstarted (hturns.symm ▸ hblocks) (hturns.symm ▸ hlong)
        (hresult.symm ▸ hfailed)
  | ongoing hmade hstarted hblocks hopen =>
      exact .ongoing hmade hstarted (hturns.symm ▸ hblocks) (hending.trans hopen)

theorem isWritable_header (session : Session σ γ) : session.header.IsWritable := by
  obtain ⟨room, hroom⟩ := Diary.Entry.fieldLevels_eq
  refine Diary.Entry.isWritable_header ?_
  rw [hroom, metadata]
  simp

theorem isWritable_shutdownEntry {ticks : Int} :
    (session.shutdownEntry ticks).IsWritable ↔ IsShort ticks := by
  obtain ⟨room, hroom⟩ := Diary.Entry.fieldLevels_eq
  unfold shutdownEntry
  rw [Diary.Entry.isWritable_event_iff, hroom]
  simp

/-- The diary of a run is its header and what a run leaves after it. -/
def HasDiary (session : Session σ γ) (conditions : Conditions) (world : σ) (backend : γ)
    (finish : Finish σ γ) : Prop :=
  ∃ rest, Event.entries finish.trace = session.header :: rest ∧
    session.Leaves conditions world backend finish rest

/-- Giving the backend back leaves nothing in the diary. -/
theorem hasDiary_released {finish : Finish σ γ}
    (h : session.HasDiary conditions world backend finish) :
    session.HasDiary conditions world backend (session.released finish) := by
  obtain ⟨rest, hentries, hleaves⟩ := h
  unfold released
  split
  · exact ⟨rest, hentries, hleaves⟩
  · split
    · refine ⟨rest, ?_, hleaves.of_same ?turns ?ending⟩
      · rw [Event.entries_append, hentries]
        exact List.append_nil _
      case turns => rfl
      case ending => rfl
    · exact ⟨rest, hentries, hleaves⟩

section Kept

variable (hkept : ∀ writes, session.agent.hitch? writes = none) {state : State σ γ}
  {trace : List Event}

include hkept

theorem afterEntry_of_isWritable {entry : Diary.Entry} (h : entry.IsWritable) (state : State σ γ)
    (trace : List Event) (next : State σ γ → List Event → Finish σ γ) :
    session.afterEntry state trace entry next =
      next { state with writes := state.writes + 1 } (trace ++ [.write entry true]) := by
  unfold afterEntry
  dsimp only
  rw [Agent.obstruction?_eq_none_iff.2 ⟨hkept state.writes, h⟩]

omit hkept in
theorem afterEntry_of_not_isWritable (session : Session σ γ) {entry : Diary.Entry}
    (h : ¬ entry.IsWritable) (state : State σ γ) (trace : List Event)
    (next : State σ γ → List Event → Finish σ γ) :
    ∃ fault, session.afterEntry state trace entry next =
      ⟨{ state with writes := state.writes + 1 }, [], trace ++ [.write entry false],
        .faulted fault⟩ := by
  unfold afterEntry
  dsimp only
  cases hobstruction : session.agent.obstruction? state.writes entry with
  | none => exact absurd (Agent.obstruction?_eq_none_iff.1 hobstruction).2 h
  | some fault => exact ⟨fault, rfl⟩

variable (hmade : session.supply.obstacle? = none)

include hmade

/-- A fault before the first turn is written down if it says that something is unavailable. -/
theorem hasDiary_failedStart (hbegun : Event.entries trace = [session.header]) {fault : Fault}
    (hfault : session.StartFault conditions world backend fault) :
    session.HasDiary conditions world backend (session.failedStart fault state trace) := by
  unfold failedStart
  cases hkind : fault.kind.isUnavailable with
  | true =>
      rw [if_pos rfl, afterEntry_of_isWritable hkept (Diary.Entry.isWritable_error ..)]
      refine ⟨[.error (session.agent.clock 0) "Startup failed" fault], ?_,
        .unavailable hmade hfault hkind rfl rfl⟩
      simp only [endWith, Event.entries_append, hbegun]
      rfl
  | false =>
      rw [if_neg (by decide)]
      exact ⟨[], hbegun, .broken (.inr ⟨hmade, hfault, hkind⟩) rfl rfl⟩

/-- A course that has an end is closed with its number of turns, if this number can be written. -/
theorem hasDiary_closing (hstarted : ∀ fault, ¬ session.StartFault conditions world backend fault)
    {course : Course σ γ} {entries : List Diary.Entry}
    (hblocks : session.agent.Blocks 0 course.turns entries)
    (htick : course.state.tick = course.turns.length)
    (hentries : Event.entries course.trace = session.header :: entries) :
    session.HasDiary conditions world backend (session.closing course) := by
  have hquiet : Event.entries [.log (.info "Shutting down..."), .disconnect] = [] := rfl
  by_cases hending : course.ending = .unfinished
  · have hsame : session.closing course = course := by
      unfold closing
      rw [hending]
    rw [hsame]
    exact ⟨entries, hentries, .ongoing hmade hstarted hblocks hending⟩
  by_cases hshort : IsShort course.state.tick
  · have hclosed : (session.closing course).turns = course.turns ∧
        (session.closing course).ending = course.ending ∧
        Event.entries (session.closing course).trace =
          Event.entries course.trace ++ [session.shutdownEntry course.state.tick] := by
      unfold closing
      cases hcase : course.ending with
      | unfinished => exact absurd hcase hending
      | _ =>
          dsimp only
          rw [afterEntry_of_isWritable hkept (isWritable_shutdownEntry.2 hshort)]
          simp only [endWith, Event.entries_append, Event.entries_notes, hquiet, List.append_nil]
          exact ⟨trivial, trivial, rfl⟩
    obtain ⟨hturns, hend, hleft⟩ := hclosed
    have hevent : (session.shutdownEntry course.state.tick).IsEvent "SHUTDOWN"
        (.object [("ticks", .int (session.closing course).turns.length)]) :=
      ⟨_, "shutdown", by rw [htick, hturns]; rfl, by decide⟩
    refine ⟨entries ++ [session.shutdownEntry course.state.tick], ?_, ?_⟩
    · rw [hleft, hentries]
      rfl
    · exact .closed hmade hstarted (hturns.symm ▸ hblocks) (hend ▸ hending) hevent
  · have hclosed : (session.closing course).turns = course.turns ∧
        (∃ fault, (session.closing course).ending = .faulted fault) ∧
        Event.entries (session.closing course).trace = Event.entries course.trace := by
      have hlost :
          Event.entries [.write (session.shutdownEntry course.state.tick) false] = [] := rfl
      unfold closing
      cases hcase : course.ending with
      | unfinished => exact absurd hcase hending
      | _ =>
          dsimp only
          obtain ⟨fault, hfault⟩ := session.afterEntry_of_not_isWritable
            (fun hwritable => hshort (isWritable_shutdownEntry.1 hwritable)) _ _ _
          rw [hfault]
          simp only [Event.entries_append, Event.entries_notes, hquiet, hlost, List.append_nil]
          exact ⟨trivial, ⟨fault, rfl⟩, trivial⟩
    obtain ⟨hturns, ⟨fault, hend⟩, hleft⟩ := hclosed
    rw [htick] at hshort
    refine ⟨entries, hleft.trans hentries, .uncounted hmade hstarted (hturns.symm ▸ hblocks)
      (hturns.symm ▸ hshort) ⟨fault, ?_⟩⟩
    unfold result
    rw [hend]

variable {path : Path} (hdiary : session.agent.diary? = some path)

include hdiary

theorem hasDiary_connected (hwords : session.agent.backend.AnswersInWords state.backend)
    (hbegun : Event.entries trace = [session.header])
    (hstarted : ∀ fault, ¬ session.StartFault conditions world backend fault) (limit : Nat)
    (htick : state.tick = 0) :
    session.HasDiary conditions world backend (session.connected conditions limit state trace) := by
  obtain ⟨entries, hblocks, hentries, hcount⟩ := session.agent.course_blocks hdiary hkept hwords
    (session.underSettings conditions) limit trace
  rw [htick] at hblocks hcount
  rw [hbegun] at hentries
  rw [Int.zero_add] at hcount
  exact hasDiary_closing hkept hmade hstarted hblocks hcount hentries

/-- Unless the run was asked to stop before, the body is connected to once the backend is ready. -/
theorem hasDiary_readied (hwords : session.agent.backend.AnswersInWords state.backend)
    (hready : (session.agent.backend.ready backend).result = .ok ())
    (limit : Nat) (hworld : state.world = world) (htick : state.tick = 0) :
    session.HasDiary conditions world backend
      (session.readied conditions limit state (session.readyTrace backend)) := by
  have hbegun := session.entries_readyTrace backend
  unfold readied
  cases hasked : conditions.isStopped (session.readyTrace backend) with
  | true =>
      have hstarted : ∀ fault, ¬ session.StartFault conditions world backend fault := by
        rintro fault (hunready | ⟨-, hnot, -⟩)
        · exact nomatch hready.symm.trans hunready
        · exact nomatch hasked.symm.trans hnot
      have hevent : (session.shutdownEntry 0).IsEvent "SHUTDOWN" (.object [("ticks", .int 0)]) :=
        ⟨_, "shutdown", rfl, by decide⟩
      rw [if_pos rfl, afterEntry_of_isWritable hkept (isWritable_shutdownEntry.2 (by decide))]
      refine ⟨[] ++ [session.shutdownEntry 0], ?_, .closed hmade hstarted .nil ?_ hevent⟩
      · simp only [endWith, Event.entries_append, hbegun]
        rfl
      · exact nofun
  | false =>
      have hconnecting : ∀ ok logs, Event.entries
          (session.readyTrace backend ++ .connect ok :: Event.notes logs) = [session.header] := by
        intro ok logs
        have hquiet : Event.entries (.connect ok :: Event.notes logs) = [] :=
          Event.entries_notes logs
        rw [Event.entries_append, hbegun, hquiet, List.append_nil]
      rw [if_neg (by decide), hworld]
      cases hconnect : (session.agent.body.connect world).result with
      | error fault =>
          simp only [hconnect]
          exact hasDiary_failedStart hkept hmade (hconnecting _ _)
            (.unconnected hready hasked hconnect)
      | ok value =>
          have hstarted : ∀ fault, ¬ session.StartFault conditions world backend fault := by
            rintro fault (hunready | ⟨-, -, hunconnected⟩)
            · exact nomatch hready.symm.trans hunready
            · exact nomatch hconnect.symm.trans hunconnected
          simp only [hconnect]
          refine hasDiary_connected hkept hmade hdiary ?_ (hconnecting _ _) hstarted limit ?_
          · exact hwords
          · exact htick

theorem hasDiary_waiting (hwords : session.agent.backend.AnswersInWords backend) (limit : Nat)
    (hworld : state.world = world) (hbackend : state.backend = backend) (htick : state.tick = 0) :
    session.HasDiary conditions world backend (session.waiting conditions limit state
      ([.write session.header true] ++ Event.notes session.openingLogs)) := by
  unfold waiting
  rw [hbackend]
  cases hready : (session.agent.backend.ready backend).result with
  | error fault =>
      simp only [hready]
      refine hasDiary_failedStart hkept hmade ?_ (.unready hready)
      simp only [Event.entries_append, Event.entries_notes, List.append_nil]
      rfl
  | ok value =>
      simp only [hready]
      exact hasDiary_readied hkept hmade hdiary (hwords.of_reaches (.ready .start)) hready limit
        hworld htick

omit hmade in
theorem hasDiary_run (hwords : session.agent.backend.AnswersInWords backend)
    (conditions : Conditions) (limit : Nat) (world : σ) :
    session.HasDiary conditions world backend (session.run conditions limit world backend) := by
  unfold run
  rw [afterEntry_of_isWritable hkept session.isWritable_header]
  unfold begun
  cases hmade : session.supply.obstacle? with
  | some fault =>
      refine ⟨[], ?_, .broken (.inl hmade) rfl rfl⟩
      simp only [endWith, Event.entries_append, Event.entries_notes, List.append_nil]
      rfl
  | none =>
      exact hasDiary_released (hasDiary_waiting hkept hmade hdiary hwords limit rfl rfl rfl)

end Kept

/-! ## Nothing is kept that has no text -/

/-- What was kept in the diary could be written. -/
def KeepsWritable (trace : List Event) : Prop :=
  ∀ entry ∈ Event.entries trace, entry.IsWritable

section Writable

variable {state : State σ γ} {trace later : List Event}

theorem keepsWritable_append :
    KeepsWritable (trace ++ later) ↔ KeepsWritable trace ∧ KeepsWritable later := by
  unfold KeepsWritable
  rw [Event.entries_append, List.forall_mem_append]

theorem KeepsWritable.append_quiet (h : KeepsWritable trace) (hquiet : Event.entries later = []) :
    KeepsWritable (trace ++ later) := by
  refine keepsWritable_append.2 ⟨h, ?_⟩
  unfold KeepsWritable
  rw [hquiet]
  exact List.forall_mem_nil _

theorem KeepsWritable.notes (h : KeepsWritable trace) (logs : List Log.Line) :
    KeepsWritable (trace ++ Event.notes logs) :=
  h.append_quiet (Event.entries_notes logs)

theorem keepsWritable_afterEntry (session : Session σ γ) (state : State σ γ) (entry : Diary.Entry)
    {next : State σ γ → List Event → Finish σ γ} (h : KeepsWritable trace)
    (hnext : ∀ state trace, KeepsWritable trace → KeepsWritable (next state trace).trace) :
    KeepsWritable (session.afterEntry state trace entry next).trace := by
  unfold afterEntry
  dsimp only
  cases hobstruction : session.agent.obstruction? state.writes entry with
  | none =>
      refine hnext _ _ (keepsWritable_append.2 ⟨h, ?_⟩)
      exact List.forall_mem_singleton.2 (Agent.obstruction?_eq_none_iff.1 hobstruction).2
  | some fault => exact h.append_quiet rfl

theorem keepsWritable_failedStart (session : Session σ γ) (fault : Fault)
    (h : KeepsWritable trace) :
    KeepsWritable (session.failedStart fault state trace).trace := by
  unfold failedStart
  split
  · exact session.keepsWritable_afterEntry state _ h fun _ _ htrace => htrace
  · exact h

theorem keepsWritable_course (agent : Agent σ γ) (conditions : Conditions) (limit : Nat)
    (state : State σ γ) (h : KeepsWritable trace) :
    KeepsWritable (agent.course conditions limit state trace).trace := by
  have hprefix : ∃ after, (agent.course conditions limit state trace).trace = trace ++ after := by
    unfold Agent.course
    split
    · exact ⟨[], (List.append_nil trace).symm⟩
    · obtain ⟨after, htrace, -⟩ :=
        Agent.courseFrom_trace Agent.inward_written? agent conditions limit state 0 trace
      exact ⟨after, htrace⟩
  obtain ⟨after, htrace⟩ := hprefix
  rw [htrace]
  refine keepsWritable_append.2 ⟨h, fun entry hentry => ?_⟩
  refine agent.isWritable_of_mem_course conditions limit state trace ?_
  rw [htrace, List.drop_left]
  exact hentry

theorem keepsWritable_connected (session : Session σ γ) (conditions : Conditions) (limit : Nat)
    (h : KeepsWritable trace) :
    KeepsWritable (session.connected conditions limit state trace).trace := by
  have hcourse := keepsWritable_course session.agent (session.underSettings conditions) limit
    state h
  unfold connected closing
  split
  · exact hcourse
  · refine session.keepsWritable_afterEntry _ _ ?_ fun _ _ htrace => htrace
    exact (hcourse.append_quiet rfl).notes _

theorem keepsWritable_readied (session : Session σ γ) (conditions : Conditions) (limit : Nat)
    (h : KeepsWritable trace) :
    KeepsWritable (session.readied conditions limit state trace).trace := by
  have hconnecting : ∀ ok logs, KeepsWritable (trace ++ .connect ok :: Event.notes logs) :=
    fun ok logs => h.append_quiet (Event.entries_notes logs)
  unfold readied
  split
  · exact session.keepsWritable_afterEntry state _ (h.append_quiet rfl) fun _ _ htrace => htrace
  · dsimp only
    split
    · exact session.keepsWritable_failedStart _ (hconnecting _ _)
    · exact session.keepsWritable_connected conditions limit (hconnecting _ _)

theorem keepsWritable_waiting (session : Session σ γ) (conditions : Conditions) (limit : Nat)
    (h : KeepsWritable trace) :
    KeepsWritable (session.waiting conditions limit state trace).trace := by
  have hawaiting : Event.entries [.log session.awaitingLog] = [] := rfl
  have hnoted := (h.append_quiet hawaiting).notes (session.agent.backend.ready state.backend).logs
  unfold waiting
  dsimp only
  split
  · exact session.keepsWritable_failedStart _ (hnoted.append_quiet rfl)
  · exact session.keepsWritable_readied conditions limit (hnoted.append_quiet rfl)

theorem keepsWritable_released (session : Session σ γ) {finish : Finish σ γ}
    (h : KeepsWritable finish.trace) : KeepsWritable (session.released finish).trace := by
  unfold released
  split
  · exact h
  · split
    · exact h.append_quiet rfl
    · exact h

theorem keepsWritable_run (session : Session σ γ) (conditions : Conditions) (limit : Nat)
    (world : σ) (backend : γ) :
    KeepsWritable (session.run conditions limit world backend).trace := by
  unfold run
  refine session.keepsWritable_afterEntry _ _ (List.forall_mem_nil _) fun state trace htrace => ?_
  unfold begun
  dsimp only
  split
  · exact htrace.notes _
  · exact session.keepsWritable_released
      (session.keepsWritable_waiting conditions limit (htrace.notes _))

end Writable

end Session

end Rulebound
