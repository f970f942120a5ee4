import Rulebound.Proofs.Diary
import Rulebound.Proofs.Mediation
import Rulebound.Proofs.Sink
import Rulebound.Proofs.Text.Blank
import Rulebound.Proofs.World.Run

/-!
# What is said and what is written of it

What the agent says is computed where it acts, and what the diary keeps of it is computed from the
record of the turn. They agree because the words of an action are trimmed when they are read. So
the messages in a diary that can be written to are, one by one, those that the world has heard, but
for one that is said in a turn without its record.
-/

namespace Rulebound

/-! ## Messages in a diary -/

namespace Diary

def messageIn? (value : Json) : Option String :=
  match value.field? "type", value.field? "kind", (value.field? "details").bind (·.field? "message")
      with
  | some (.string (.plain "event")), some (.string (.plain "CHAT")),
      some (.string (.plain message)) => some message
  | _, _, _ => none

def saidIn (entries : List Entry) : List String :=
  entries.filterMap fun entry => messageIn? entry.toJson

def messageOfLine? [Json.Nesting] (line : List Char) : Option String :=
  match Json.readAny line with
  | .ok (some value) => messageIn? value
  | _ => none

def readMessages [Json.Nesting] (bytes : List UInt8) : Except Fault (List String) :=
  (linesOf bytes).map fun lines => lines.filterMap messageOfLine?

@[simp] theorem saidIn_append (first later : List Entry) :
    saidIn (first ++ later) = saidIn first ++ saidIn later :=
  List.filterMap_append

@[simp] theorem messageIn?_cycle (record : Cycle.Record) :
    messageIn? (Entry.cycle record).toJson = none := rfl

@[simp] theorem messageIn?_error (time : Instant) (message : String) (fault : Fault) :
    messageIn? (Entry.error time message fault).toJson = none := rfl

@[simp] theorem messageIn?_chat (time : Instant) (speaker message : String) :
    messageIn? (Entry.event time "chat"
      (.object [("from", .string speaker), ("message", .string message)])).toJson =
        some message := by
  have hkind : Text.upper "chat" = "CHAT" := by decide
  simp [messageIn?, Entry.toJson, Entry.ofType, Json.field?, Json.lookup?, hkind]

/-- A diary says of what was said the same as the entries that were written to it, if none of their
values reads otherwise than it was. -/
theorem readMessages_bytesOf [Json.Nesting] {entries : List Entry}
    (h : ∀ entry ∈ entries, entry.IsWritable)
    (hsettled : ∀ entry ∈ entries, entry.toJson.IsSettled) :
    readMessages (bytesOf entries) = .ok (saidIn entries) := by
  have hline : ∀ entry ∈ entries, messageOfLine? entry.lineChars = messageIn? entry.toJson := by
    intro entry hentry
    rw [messageOfLine?, readAny_lineChars (h entry hentry),
      Json.reread_eq _ (hsettled entry hentry)]
  have hsame : (entries.map Entry.lineChars).filterMap messageOfLine? = saidIn entries := by
    rw [List.filterMap_map]
    exact List.filterMap_congr hline
  rw [readMessages, bytesOf, linesOf_textOf, Except.map, hsame]

theorem Entry.isSettled_cycle (record : Cycle.Record) : (Entry.cycle record).toJson.IsSettled := by
  simp [toJson, ofType, Json.IsSettled, Json.HaveSettled, CodeText.IsSettled, record.isSettled]

theorem Entry.isSettled_error (time : Instant) (message : String) (fault : Fault) :
    (Entry.error time message fault).toJson.IsSettled := by
  simp [toJson, ofType, Json.IsSettled, Json.HaveSettled, CodeText.IsSettled]

theorem Entry.isSettled_said (time : Instant) (speaker message : String) :
    (Entry.event time "chat"
      (.object [("from", .string speaker), ("message", .string message)])).toJson.IsSettled := by
  simp [toJson, ofType, Json.IsSettled, Json.HaveSettled, CodeText.IsSettled]

end Diary

/-! ## Messages that a world hears -/

def Call.message? : Call → Option String
  | chat message => some message
  | _ => none

theorem Call.eq_chat {call : Call} {message : String} (h : call.message? = some message) :
    call = .chat message := by
  cases call with
  | chat other => rw [Option.some.inj h]
  | _ => exact nomatch h

theorem Call.Suits.message?_eq_none {call : Call} {action : Action} (h : call.Suits action)
    (hverb : action.verb ≠ "chat") : call.message? = none := by
  cases call with
  | chat message => exact absurd (List.mem_singleton.1 h.1) hverb
  | _ => rfl

namespace World

variable {world : World}

@[simp] theorem advance_chatLog (world : World) : world.advance.chatLog = world.chatLog := by
  rw [advance]

@[simp] theorem moveTo_chatLog (world : World) (block : Coord) :
    (world.moveTo block).chatLog = world.chatLog := by
  rw [moveTo]

@[simp] theorem takeAll_chatLog (world : World) (ingredients : List (String × Int)) :
    (world.takeAll ingredients).chatLog = world.chatLog := by
  rw [takeAll_eq]

theorem WentTo.chatLog {target : Position} {after : World} (h : world.WentTo target after) :
    after.chatLog = world.chatLog := by
  obtain ⟨block, -, -, rfl⟩ := h
  simp

theorem Does.chatLog {call : Call} {after : World} (h : world.Does call after) :
    after.chatLog = world.chatLog ++ call.message?.toList := by
  cases h with
  | moved _ went => simp [Call.message?, went.chatLog]
  | went went => simp [Call.message?, went.chatLog]
  | mined _ _ => simp [Call.message?, give, clear]
  | hit _ => simp [Call.message?]
  | made _ _ _ => simp [Call.message?, give]
  | placed _ _ _ => simp [Call.message?, take, build]
  | ate _ => simp [Call.message?, feed, take]
  | slept _ _ => simp [Call.message?]
  | said message => simp [Call.message?, chat]
  | looked target => simp [Call.message?]

theorem perform_chatLog (world : World) (call : Call) :
    (world.perform call).state.chatLog = world.chatLog ++ call.message?.toList := by
  rcases perform_cases world call with ⟨hdoes, -⟩ | ⟨-, hsame⟩
  · exact hdoes.chatLog
  · cases hmessage : call.message? with
    | none => simp [hsame]
    | some message =>
        rw [Call.eq_chat hmessage]
        rfl

end World

/-! ## Acting -/

theorem Plan.ofAction_chat {action : Action} (hverb : action.verb = "chat") :
    ofAction action = toSay action := by
  unfold ofAction
  rw [hverb]
  rfl

theorem Plan.toSay_of_isTrimmed {action : Action} (h : action.IsTrimmed) :
    toSay action =
      if action.raw = "" then refused "Chat requires a message" else tell (.chat action.raw) := by
  unfold toSay
  rw [h, String.ofList_toList]

/-- An action by which the agent speaks succeeds unless it has no words, and then these are what
it says. -/
theorem dispatch_chat {action : Action} (h : action.IsTrimmed) (hverb : action.verb = "chat")
    (obstacle? : Nat → Option Fault) (state : World × Nat) :
    (dispatch (World.body.obstructed obstacle?) state action).ok = (action.raw != "") ∧
      (dispatch (World.body.obstructed obstacle?) state action).state.1.chatLog =
        state.1.chatLog ++ if action.raw = "" then [] else [action.raw] := by
  unfold dispatch
  rw [Plan.ofAction_chat hverb, Plan.toSay_of_isTrimmed h]
  by_cases hempty : action.raw = ""
  · simp [hempty, Plan.run, Dispatched.without]
  · rw [if_neg hempty, if_neg hempty, bne_iff_ne.2 hempty]
    exact ⟨rfl, rfl⟩

/-- The world hears of an action what the record of it says that was said. -/
theorem dispatch_chatLog {action : Action} (h : action.IsTrimmed)
    (obstacle? : Nat → Option Fault) (state : World × Nat) :
    (dispatch (World.body.obstructed obstacle?) state action).state.1.chatLog =
      state.1.chatLog ++ (if action.verb = "chat" ∧
        (dispatch (World.body.obstructed obstacle?) state action).ok = true then some action.raw
      else none).toList := by
  by_cases hverb : action.verb = "chat"
  · obtain ⟨hok, hheard⟩ := dispatch_chat h hverb obstacle? state
    rw [hok, hheard]
    by_cases hempty : action.raw = ""
    · simp [hempty]
    · simp [hempty, hverb]
  · rw [if_neg (fun hsaid => hverb hsaid.1), Option.toList_none, List.append_nil]
    rcases dispatch_cases (World.body.obstructed obstacle?) state action with
      ⟨-, hsame⟩ | ⟨call, hsuits, -, hleft⟩
    · rw [hsame]
    · have hperform : ((World.body.obstructed obstacle?).perform state call).state.1 =
          (state.1.perform call).state := rfl
      rw [hleft, hperform, World.perform_chatLog, hsuits.message?_eq_none hverb]
      exact List.append_nil _

theorem Reply.isTrimmed_of_proposal {reply : Reply} {action : Action}
    (h : reply.action? = .ok (some action)) : action.IsTrimmed := by
  obtain ⟨value, rfl⟩ := text_of_proposal h
  exact Action.isTrimmed_read? (Except.ok.inj h)

/-! ## Turns -/

namespace Cycle.Agent

section Recorded

variable {σ γ : Type} {agent : Agent σ γ} {state : State σ γ}

def speech? : Except Fault Record → Option String
  | .ok record => spoken? record
  | .error _ => none

/-- The diary is due the message that was said by the record of a turn. -/
theorem saidIn_due (agent : Agent σ γ) (turn : Turn σ γ) :
    Diary.saidIn (agent.due turn) = (speech? turn.record).toList := by
  have hfault : ∀ now, Diary.saidIn (caught now turn.attempt.fault?) = [] := by
    intro now
    cases turn.attempt.fault? with
    | none => rfl
    | some fault => simp [caught, Diary.saidIn]
  unfold due
  rw [Diary.saidIn_append, hfault, List.nil_append]
  cases turn.record with
  | error fault => rfl
  | ok record =>
      cases hspoken : spoken? record with
      | none => simp [entriesOf, speech?, hspoken, Diary.saidIn]
      | some message => simp [entriesOf, speech?, hspoken, Diary.saidIn, List.filterMap_cons]

theorem isSettled_due (agent : Agent σ γ) (turn : Turn σ γ) :
    ∀ entry ∈ agent.due turn, entry.toJson.IsSettled := by
  intro entry hentry
  rcases List.mem_append.1 hentry with hcaught | hrecorded
  · obtain ⟨fault, -, rfl⟩ := List.mem_map.1 hcaught
    exact Diary.Entry.isSettled_error ..
  · cases hrecord : turn.record with
    | error fault => simp [hrecord] at hrecorded
    | ok record =>
        rw [hrecord] at hrecorded
        rcases List.mem_cons.1 hrecorded with rfl | hsaid
        · exact Diary.Entry.isSettled_cycle record
        · obtain ⟨message, -, rfl⟩ := List.mem_map.1 hsaid
          exact Diary.Entry.isSettled_said ..

theorem speech?_of_no_action (h : (agent.attempt state).attempt.action? = none) :
    speech? (agent.recordOf state) = none := by
  unfold speech?
  cases hrecord : agent.recordOf state with
  | error fault => rfl
  | ok record =>
      obtain ⟨haction, -, -⟩ := Attempt.record_eq_ok hrecord
      simp [spoken?, haction, h]

/-- A turn in which an action is proposed can be recorded. -/
theorem exists_recordOf_of_proposes {action : Action} (h : agent.Proposes state action) :
    ∃ record, agent.recordOf state = .ok record := by
  obtain ⟨reply, hhears, hread⟩ := h
  obtain ⟨value, rfl⟩ := Reply.text_of_proposal hread
  refine Attempt.record_isOk ?_ _ _ _
  intro other hother
  rw [attempt_reply?_iff.2 hhears] at hother
  exact nomatch hother

end Recorded

section Audited

variable [Json.Nesting] {γ : Type} {agent : Agent (World × Nat) γ} {obstacle? : Nat → Option Fault}

/-- A turn adds to what the world has heard what is said in it by its record, kept or lost. -/
theorem turn_chatLog (hbody : agent.body = World.body.obstructed obstacle?)
    (state : State (World × Nat) γ) :
    (agent.turn state).state.world.1.chatLog =
      state.world.1.chatLog ++ (speech? (agent.recordOf state)).toList := by
  rw [turn_body]
  -- Only an action that is proposed and permitted is done, and only by it can a message be said.
  by_cases hsome : ∃ action, agent.Proposes state action
  · obtain ⟨action, hproposes⟩ := hsome
    obtain ⟨seen, reply, hread, hattempt, hleft, -⟩ := hproposes.attempt
    have htrimmed : action.IsTrimmed := Reply.isTrimmed_of_proposal hread
    obtain ⟨record, hrecord⟩ := exists_recordOf_of_proposes hproposes
    obtain ⟨haction, hresult, -⟩ := Attempt.record_eq_ok hrecord
    rw [hrecord, speech?, hleft]
    cases hjudge : state.book.judge action with
    | denied reason =>
        obtain ⟨hdenied, hkept, -⟩ := act_of_denied hjudge agent (agent.looked state) seen reply
        rw [hattempt, hdenied] at haction hresult
        simp [hkept, looked_fst hbody, spoken?, haction, hresult, Attempt.action?,
          Attempt.result]
    | permitted =>
        obtain ⟨hdispatched, hdone, -⟩ :=
          act_of_permitted hjudge agent (agent.looked state) seen reply
        rw [hattempt, hdispatched, hbody] at haction hresult
        rw [hdone, hbody, dispatch_chatLog htrimmed, looked_fst hbody, spoken?, haction, hresult]
        rfl
  · obtain ⟨hkept, hnone, -⟩ := attempt_of_no_proposal fun action h => hsome ⟨action, h⟩
    rw [hkept, looked_fst hbody, speech?_of_no_action hnone, Option.toList_none, List.append_nil]

/-- What is said in a turn is said by its record, or the turn has none and cannot be written. -/
theorem turn_speech (agent : Agent (World × Nat) γ) (state : State (World × Nat) γ) :
    ∃ lost? : Option String, (speech? (agent.recordOf state)).toList =
        (speech? (agent.turn state).record).toList ++ lost?.toList ∧
      ((agent.turn state).IsCountable → lost? = none) ∧
      ∀ record, (agent.turn state).record = .ok record → lost? = none := by
  cases hrecord : (agent.turn state).record with
  | ok record =>
      refine ⟨none, ?_, fun _ => rfl, fun _ _ => rfl⟩
      rw [(turn_record_iff.1 hrecord).1]
      exact (List.append_nil _).symm
  | error fault =>
      refine ⟨speech? (agent.recordOf state), rfl, fun hcount => ?_, fun _ h => nomatch h⟩
      rw [← turn_record_of_isCountable (.inr hcount), hrecord]
      rfl

/-! ## Courses -/

omit [Json.Nesting] in
theorem reach_world {σ : Type} (conditions : Conditions) (turn : Turn σ γ) (done : Nat)
    (trace : List Event) :
    (conditions.reach turn done trace).state.world = turn.state.world := by
  unfold Conditions.reach
  cases turn.record with
  | error fault => rfl
  | ok record => cases hobjection : conditions.objection done record <;> simp [hobjection]

/-- What the world has heard at the end of a course is what was said by the records of its turns,
and what is said in a last turn without a record. -/
theorem courseFrom_chatLog (hbody : agent.body = World.body.obstructed obstacle?)
    (conditions : Conditions) (limit : Nat) (state : State (World × Nat) γ) (done : Nat)
    (trace : List Event) :
    let course := agent.courseFrom conditions limit state done trace
    ∃ lost? : Option String, course.state.world.1.chatLog = state.world.1.chatLog ++
        course.turns.flatMap (fun turn => (speech? turn.record).toList) ++ lost?.toList ∧
      ((∀ turn ∈ course.turns, turn.IsCountable) → lost? = none) := by
  induction limit generalizing state done trace with
  | zero => exact ⟨none, by simp [courseFrom], fun _ => rfl⟩
  | succ limit ih =>
      have hturn := turn_chatLog hbody state
      obtain ⟨lost?, hspeech, hcountable, hrecorded⟩ := turn_speech agent state
      have hreached :
          (conditions.reach (agent.turn state) (done + 1) trace).state.world =
            (agent.turn state).state.world :=
        reach_world conditions (agent.turn state) (done + 1) trace
      unfold courseFrom
      dsimp only
      cases hending : (conditions.reach (agent.turn state) (done + 1) trace).ending? with
      | some ending =>
          refine ⟨lost?, ?_, fun hcount => hcountable (hcount _ (List.mem_singleton_self _))⟩
          simp [hreached, hturn, hspeech]
      | none =>
          obtain ⟨record, hrecord⟩ := recorded_of_reach hending
          obtain rfl := hrecorded record hrecord
          obtain ⟨lost?, hlater, hcountable⟩ := ih
            (conditions.reach (agent.turn state) (done + 1) trace).state (done + 1)
            (conditions.reach (agent.turn state) (done + 1) trace).trace
          refine ⟨lost?, ?_, fun hcount => hcountable fun turn hmem =>
            hcount turn (List.mem_cons_of_mem _ hmem)⟩
          simp [hlater, hreached, hturn, hspeech]

theorem course_chatLog (hbody : agent.body = World.body.obstructed obstacle?)
    (conditions : Conditions) (limit : Nat) (start : State (World × Nat) γ)
    (before : List Event) :
    let course := agent.course conditions limit start before
    ∃ lost? : Option String, course.state.world.1.chatLog = start.world.1.chatLog ++
        course.turns.flatMap (fun turn => (speech? turn.record).toList) ++ lost?.toList ∧
      ((∀ turn ∈ course.turns, turn.IsCountable) → lost? = none) := by
  unfold course
  split
  · exact ⟨none, by simp, fun _ => rfl⟩
  · exact courseFrom_chatLog hbody conditions limit start 0 before

/-- A diary that can be written to is left just what is due of the turns of a course. -/
theorem entries_course {path : Path} (hdiary : agent.diary? = some path)
    (hkept : ∀ writes, agent.hitch? writes = none) (conditions : Conditions) (limit : Nat)
    (start : State (World × Nat) γ) (before : List Event) :
    Event.entries ((agent.course conditions limit start before).trace.drop before.length) =
      (agent.course conditions limit start before).turns.flatMap agent.due := by
  obtain ⟨after, lost, htrace, hwritten, hlost, -⟩ :=
    course_writes hdiary conditions limit start before
  have hnone : lost.filter (·.2) = [] :=
    List.filter_eq_nil_iff.2 fun written hmem => by simp [hlost written hmem]
  rw [htrace, List.drop_left, Event.entries_eq_writes, hwritten, List.filter_append, hnone,
    List.append_nil, kept_marked hkept]

/-- However an agent in a block world runs, whatever its backend answers and whatever the rules are:
if its diary can be written to, the messages in the diary are, in order, those that the world has
heard meanwhile, and so are the messages that are read in the diary. One message more can be heard,
in a turn that is without its record because something of it cannot be written. -/
theorem course_chat_audited {path : Path} (hbody : agent.body = World.body.obstructed obstacle?)
    (hdiary : agent.diary? = some path) (hkept : ∀ writes, agent.hitch? writes = none)
    (conditions : Conditions) (limit : Nat) (start : State (World × Nat) γ)
    (before : List Event) :
    let course := agent.course conditions limit start before
    let entries := Event.entries (course.trace.drop before.length)
    (∃ lost? : Option String, course.state.world.1.chatLog =
        start.world.1.chatLog ++ Diary.saidIn entries ++ lost?.toList ∧
      ((∀ turn ∈ course.turns, turn.IsCountable) → lost? = none)) ∧
      Diary.readMessages (Diary.bytesOf entries) = .ok (Diary.saidIn entries) := by
  intro course entries
  have hentries : entries = course.turns.flatMap agent.due :=
    entries_course hdiary hkept conditions limit start before
  have hturn : (fun turn => (agent.due turn).filterMap fun entry =>
      Diary.messageIn? entry.toJson) = fun turn => (speech? turn.record).toList := by
    funext turn
    exact saidIn_due agent turn
  have hsaid : Diary.saidIn entries =
      course.turns.flatMap fun turn => (speech? turn.record).toList := by
    rw [hentries, Diary.saidIn, List.filterMap_flatMap, hturn]
  constructor
  · rw [hsaid]
    exact course_chatLog hbody conditions limit start before
  · refine Diary.readMessages_bytesOf (fun entry hentry => ?_) fun entry hentry => ?_
    · exact isWritable_of_mem_course agent conditions limit start before hentry
    · rw [hentries] at hentry
      obtain ⟨turn, -, hdue⟩ := List.mem_flatMap.1 hentry
      exact isSettled_due agent turn entry hdue

end Audited

section Speaking

attribute [local instance] Json.Nesting.usual

/-- Of four turns, two are heard: one has no words, and before the last one speaking is
forbidden. -/
theorem scripted_chat_audited :
    let conditions := { stopAfter 4 with
      edits := fun done => if done = 3 then [.add "You must not chat."] else [] }
    let start := scriptedStart {} ["ACTION: chat  hello there ", "ACTION: chat", "ACTION: Chat bye"]
      []
    let course := diligent.course conditions 9 start []
    course.turns.length = 4 ∧ course.state.world.1.chatLog = ["hello there", "bye"] ∧
      Diary.saidIn (Event.entries course.trace) = ["hello there", "bye"] ∧
      Diary.readMessages (Diary.bytesOf (Event.entries course.trace)) =
        .ok ["hello there", "bye"] := by
  intro conditions start course
  have hbody : diligent.body = World.body.obstructed fun _ => none := rfl
  have hsilent : start.world.1.chatLog = [] := rfl
  have hcount : ∀ turn ∈ course.turns, turn.IsCountable := by decide +kernel
  have hsaid : Diary.saidIn (Event.entries course.trace) = ["hello there", "bye"] := by
    decide +kernel
  obtain ⟨⟨lost?, hheard, hnone⟩, hread⟩ :=
    course_chat_audited hbody rfl (fun _ => rfl) conditions 9 start []
  rw [List.length_nil, List.drop_zero, hsaid] at hheard hread
  rw [hsilent, hnone hcount, List.nil_append, Option.toList_none, List.append_nil] at hheard
  refine ⟨by decide +kernel, ?_, hsaid, hread⟩
  simp only [course, hheard]

/-- What is said in a turn whose number has too many digits is heard, and nothing is written of
it. -/
theorem endless_chat_unaudited :
    let start := { scriptedStart {} ["ACTION: chat hello"] [] with
      tick := (pow10 longestInteger : Nat) }
    let course := diligent.course {} 1 start []
    course.state.world.1.chatLog = ["hello"] ∧ Event.entries course.trace = [] := by
  intro start course
  have hbody : diligent.body = World.body.obstructed fun _ => none := rfl
  have hdiary : diligent.diary? = some default := rfl
  have hkept : ∀ writes, diligent.hitch? writes = none := fun _ => rfl
  have hlong : ¬ (diligent.turn start).IsCountable := by
    rintro ⟨htick, -⟩
    refine Json.not_isShort_of_le ?_ htick
    show pow10 longestInteger ≤ ((pow10 longestInteger : Nat) + 1 : Int).natAbs
    omega
  have hspeech : speech? (diligent.recordOf start) = some "hello" := by decide +kernel
  have hcalm : (diligent.attempt start).attempt.fault? = none := by decide +kernel
  have hopening : ∀ writes, diligent.hitch? writes ≠ some .opening := fun _ => nofun
  have hsilent : start.world.1.chatLog = [] := rfl
  obtain ⟨fault, hfault⟩ := turn_record_of_not_isCountable hdiary hopening hlong
  have hdue : diligent.due (diligent.turn start) = [] := by
    unfold due
    rw [hfault, turn_attempt, hcalm]
    rfl
  have hheard := turn_chatLog hbody start
  have hentries := entries_course hdiary hkept {} 1 start []
  rw [hsilent, hspeech] at hheard
  rw [List.length_nil, List.drop_zero] at hentries
  have hcourse : diligent.course {} 1 start [] = _ := course_of_fault rfl hfault 0
  rw [hcourse, List.flatMap_singleton, hdue] at hentries
  simp only [course, hcourse]
  exact ⟨hheard, hentries⟩

end Speaking

end Cycle.Agent

end Rulebound
