import Rulebound.Body
import Rulebound.Proofs.Backend.Server
import Rulebound.Proofs.Diary
import Rulebound.Proofs.Writing
import Rulebound.World.Operation

/-!
# Turns of an agent with a server

Whatever comes back from the server, a turn is counted. It is recorded, and its record is the one
that the diary is given, unless the server responds with a value that is no text and counts as
something: such a response is taken for an answer, and no record can hold it.
-/

namespace Rulebound

/-! ## Records -/

namespace Cycle.Attempt

variable {attempt : Attempt} {record : Record} {tick : Int} {timestamp goal : String}

theorem record_of_unfit {value : Json} (h : attempt.reply? = some (.other value))
    (hunfit : value.IsUnfit) : attempt.record tick timestamp goal ≠ .ok record := by
  obtain ⟨htruthy, htext⟩ := hunfit
  unfold Attempt.record reasoning
  rw [h]
  cases value with
  | null => exact nomatch htruthy
  | string text => exact absurd rfl (htext text)
  | _ => exact nofun

theorem record_of_text {text : String} (h : attempt.reply? = some (.text text))
    (hrecord : attempt.record tick timestamp goal = .ok record) : record.reasoning = some text := by
  unfold Attempt.record reasoning at hrecord
  rw [h] at hrecord
  injection hrecord with hrecord
  subst hrecord
  rfl

theorem record_tick (hrecord : attempt.record tick timestamp goal = .ok record) :
    record.tick = tick := by
  obtain ⟨reasoning, -, rfl⟩ := exists_reasoning hrecord
  rfl

end Cycle.Attempt

/-! ## What the diary is given -/

def Event.cycles (events : List Event) : List Cycle.Record :=
  (entries events).filterMap Diary.Entry.record?

namespace Cycle.Agent

variable {σ γ : Type} {agent : Agent σ γ} {state : State σ γ} {path : Path}

/-- Of a turn that is recorded, the diary is due its record, and no other one. -/
theorem record?_due [Json.Nesting] {record : Record} (h : (agent.turn state).record = .ok record) :
    (agent.due (agent.turn state)).filterMap Diary.Entry.record? = [record] := by
  unfold due
  rw [h]
  dsimp only
  have hcaught : ((agent.turn state).attempt.fault?.toList.map
      (Diary.Entry.error (agent.clock (agent.turn state).state.tick) faultMessage)).filterMap
        Diary.Entry.record? = [] := by
    cases (agent.turn state).attempt.fault? <;> rfl
  unfold caught
  rw [List.filterMap_append, hcaught]
  unfold entriesOf
  cases spoken? record <;> rfl

theorem written_records_turn [Json.Nesting] (hdiary : agent.diary? = some path) {record : Record}
    (h : (agent.turn state).record = .ok record) :
    (Event.writes (agent.turn state).events).filterMap (·.1.record?) = [record] := by
  obtain ⟨lost, hwritten, -, -, -, hnone⟩ := writes_turn hdiary state
  have hentries : (Event.writes (agent.turn state).events).map (·.1) =
      agent.due (agent.turn state) := by
    rw [hwritten, hnone record h, List.append_nil, map_fst_marked]
  rw [← record?_due h, ← hentries, List.filterMap_map]
  rfl

theorem cycles_turn [Json.Nesting] (hdiary : agent.diary? = some path)
    (hkept : ∀ writes, agent.hitch? writes = none) {record : Record}
    (h : (agent.turn state).record = .ok record) :
    Event.cycles (agent.turn state).events = [record] := by
  unfold Event.cycles
  rw [entries_turn hdiary hkept, record?_due h]

/-! ## What the server responds -/

section Serving

variable [Json.Nesting] {agent : Agent σ Link} {server : Server} {path : Path}
  {state : State σ Link}

/-- In a state, the agent asks the server, and the server responds with a value that is no text and
counts as something. -/
def GetsUnfit (agent : Agent σ Link) (server : Server) (state : State σ Link) : Prop :=
  ∃ seen prompt value, agent.Asks state seen prompt ∧ server.Asks prompt ∧
    Server.Responds state.backend.next value ∧ value.IsUnfit

theorem getsUnfit_iff (hbackend : agent.backend = server.backend) :
    agent.GetsUnfit server state ↔ ∃ value, agent.Hears state (.other value) := by
  unfold GetsUnfit Hears answerTo
  rw [hbackend]
  constructor
  · rintro ⟨seen, prompt, value, hasks, hsent, hresponds, hunfit⟩
    exact ⟨value, seen, prompt, hasks, Server.generate_other_iff.2 ⟨hsent, hresponds, hunfit⟩⟩
  · rintro ⟨value, seen, prompt, hasks, hother⟩
    exact ⟨seen, prompt, value, hasks, Server.generate_other_iff.1 hother⟩

theorem hears_unfit (hbackend : agent.backend = server.backend) {value : Json}
    (h : agent.Hears state (.other value)) : value.IsUnfit := by
  obtain ⟨seen, prompt, -, hother⟩ := h
  unfold answerTo at hother
  rw [hbackend] at hother
  exact (Server.generate_other_iff.1 hother).2.2

theorem turn_recorded_iff (hbackend : agent.backend = server.backend)
    (hdiary : agent.diary? = some path) (hkept : ∀ writes, agent.hitch? writes = none) :
    (∃ record, (agent.turn state).record = .ok record) ↔
      ¬ agent.GetsUnfit server state ∧ (agent.turn state).IsCountable := by
  rw [getsUnfit_iff hbackend]
  constructor
  · rintro ⟨record, hrecord⟩
    constructor
    · rintro ⟨value, hhears⟩
      exact Attempt.record_of_unfit (attempt_reply?_iff.2 hhears) (hears_unfit hbackend hhears)
        (turn_record_iff.1 hrecord).1
    · by_contra hlong
      obtain ⟨fault, hfault⟩ := turn_record_of_not_isCountable hdiary
        (fun writes => by rw [hkept]; exact nofun) hlong
      exact nomatch hfault.symm.trans hrecord
  · rintro ⟨hfit, hcount⟩
    exact exists_record (fun value hhears => hfit ⟨value, hhears⟩) (.inr hcount)

/-- Whatever comes back from the server, a turn is counted; it is recorded unless what comes back is
unfit, or its number or a count that is seen in it is too long to be written; and its record is the
one that is written. The record holds a text if the agent asked and what came back, or kept from
coming back, is a matter of the exchange. -/
theorem turn_survives (hbackend : agent.backend = server.backend)
    (hdiary : agent.diary? = some path) (hkept : ∀ writes, agent.hitch? writes = none)
    (state : State σ Link) :
    (agent.turn state).state.tick = state.tick + 1 ∧
    ((∃ record, (agent.turn state).record = .ok record) ↔
      ¬ agent.GetsUnfit server state ∧ (agent.turn state).IsCountable) ∧
    ∀ record, (agent.turn state).record = .ok record →
      record.tick = state.tick + 1 ∧ Event.cycles (agent.turn state).events = [record] ∧
      ∀ seen prompt, agent.Asks state seen prompt →
        (∀ fault, state.backend.next = .failed fault → Server.isMendable fault = true) →
        ¬ Server.IsTooDeep state.backend.next → ∃ text, record.reasoning = some text := by
  refine ⟨rfl, turn_recorded_iff hbackend hdiary hkept, fun record hrecord => ?_⟩
  have hmade : agent.recordOf state = .ok record := (turn_record_iff.1 hrecord).1
  refine ⟨Attempt.record_tick hmade, cycles_turn hdiary hkept hrecord, ?_⟩
  intro seen prompt hasks hfailed hdeep
  have hfit : ∀ value, (agent.answerTo state prompt).result ≠ .ok (.other value) := by
    intro value hother
    have hunfit : agent.GetsUnfit server state :=
      (getsUnfit_iff hbackend).2 ⟨value, seen, prompt, hasks, hother⟩
    exact ((turn_recorded_iff hbackend hdiary hkept).1 ⟨record, hrecord⟩).1 hunfit
  have htext : ∃ text, (agent.answerTo state prompt).result = .ok (.text text) := by
    unfold answerTo at hfit ⊢
    rw [hbackend] at hfit ⊢
    exact Server.generate_text hfailed hdeep hfit
  obtain ⟨text, hanswer⟩ := htext
  exact ⟨text, Attempt.record_of_text (attempt_reply?_iff.2 ⟨seen, prompt, hasks, hanswer⟩) hmade⟩

end Serving

/-! ## Servers in use -/

section InUse

attribute [local instance] Json.Nesting.usual

def served : Agent World Link where
  profile := {}
  body := World.body
  backend := Server.backend { options := { model := "llama3" } }
  diary? := some default
  clock := fun _ => default

def responseBody (response : Json) : List UInt8 :=
  Text.encode (Json.print (.object [("response", response)]))

def servedStart (response : Json) : State World Link where
  world := {}
  backend := { replies := fun _ => .answer 200 (responseBody response) }
  book := .ofTexts []

theorem served_text_survives :
    let turn := served.turn (servedStart (.string (.plain "ACTION: wait")))
    turn.state.tick = 1 ∧ ∃ record, turn.record = .ok record ∧ record.tick = 1 ∧
      Event.cycles turn.events = [record] ∧ ∃ text, record.reasoning = some text := by
  intro turn
  have hbackend : served.backend = Server.backend { options := { model := "llama3" } } := rfl
  have hdiary : served.diary? = some default := rfl
  have hkept : ∀ writes, served.hitch? writes = none := fun _ => rfl
  obtain ⟨htick, -, hrecords⟩ :=
    turn_survives hbackend hdiary hkept (servedStart (.string (.plain "ACTION: wait")))
  have hok : turn.record.isOk = true := by decide +kernel
  obtain ⟨seen, prompt, hasks⟩ :
      ∃ seen prompt, served.Asks (servedStart (.string (.plain "ACTION: wait"))) seen prompt :=
    exists_asks (by decide +kernel)
  have hfields : (Server.fieldsOf
      (.answer 200 (responseBody (.string (.plain "ACTION: wait"))))).isOk = true := by
    decide +kernel
  cases hrecord : turn.record with
  | error fault => simp [hrecord, Except.isOk, Except.toBool] at hok
  | ok record =>
      obtain ⟨hnumber, hwritten, hreasoning⟩ := hrecords record hrecord
      have hnext : (servedStart (.string (.plain "ACTION: wait"))).backend.next =
          .answer 200 (responseBody (.string (.plain "ACTION: wait"))) := rfl
      rw [hnext] at hreasoning
      refine ⟨htick, record, rfl, hnumber, hwritten, hreasoning seen prompt hasks ?_ ?_⟩
      · intro fault hfault
        cases hfault
      · rintro ⟨status, body, fault, -, hfault, -⟩
        simp [hfault, Except.isOk, Except.toBool] at hfields

/-- A number in the place of the response leaves a turn without its record. -/
theorem served_number_lost :
    let turn := served.turn (servedStart (.int 5))
    turn.record = .error ⟨.validation, some "reasoning: string_type", ""⟩ ∧
      Event.cycles turn.events = [] := by
  intro turn
  constructor
  · decide +kernel
  · decide +kernel

end InUse

end Cycle.Agent

end Rulebound
