import Rulebound.Backend
import Rulebound.Body
import Rulebound.Proofs.Course
import Rulebound.Proofs.Prohibition
import Rulebound.Proofs.Writing
import Rulebound.World.Operation

/-!
# Every action is weighed

Nothing is handed over in a turn but the action that was proposed in it, and only if no rule that is
in force at that turn forbids it. A forbidden action leaves the world as it was, and its turn is
recorded with the text of the first rule that forbids it. The agent here lives in a block world and
is kept from seeing now and then; its backend may answer anything or fail.
-/

namespace Rulebound.Cycle.Agent

/-! ## Scripted agents -/

def scripted : Agent (World × Nat) Script where
  profile := {}
  body := World.body.obstructed fun _ => none
  backend := Script.backend
  diary? := none
  clock := fun _ => default

def diligent : Agent (World × Nat) Script :=
  scripted.keeping (some default) fun _ => none

def scriptedStart (world : World) (answers rules : List String) :
    State (World × Nat) Script where
  world := (world, 0)
  backend := .ofTexts answers
  book := .ofTexts rules

/-- A world in which so much is carried that the count cannot be written. -/
def hoard : World := { inventory := .ofList [("dirt", pow10 longestInteger)] }

theorem hearsWords_of_texts {σ : Type} {agent : Agent σ Script} {state : State σ Script}
    (texts : List String) (hbackend : agent.backend = Script.backend)
    (h : state.backend.answers = texts.map fun text => .ok (.text text)) :
    agent.HearsWords state := by
  rintro value ⟨seen, prompt, -, hanswer⟩
  unfold answerTo at hanswer
  rw [hbackend] at hanswer
  have hword : Script.answerAt state.backend.answers state.backend.prompts.length =
      .ok (.other value) := hanswer
  unfold Script.answerAt at hword
  rw [h, List.getElem?_map] at hword
  cases hfound : texts[state.backend.prompts.length % (texts.map fun text =>
      (Except.ok (Reply.text text) : Except Fault Reply)).length]? with
  | none => exact nomatch hfound ▸ hword
  | some text => exact nomatch hfound ▸ hword

variable {γ : Type} {agent : Agent (World × Nat) γ} {state : State (World × Nat) γ}

/-- In a state, the agent proposes something that a rule in force forbids. -/
def Offends (agent : Agent (World × Nat) γ) (state : State (World × Nat) γ) : Prop :=
  ∃ action, agent.Proposes state action ∧ ∃ rule ∈ state.book.rules, rule.Forbids action

/-- What the rules demand of a turn that begins in a state. -/
structure Mediated [Json.Nesting] (agent : Agent (World × Nat) γ) (state : State (World × Nat) γ)
    (turn : Turn (World × Nat) γ) : Prop where
  /-- An action is handed over if and only if it is proposed and no rule forbids it. -/
  dispatch_iff : ∀ action, .dispatch action ∈ turn.events ↔
    agent.Proposes state action ∧ ∀ rule ∈ state.book.rules, ¬ rule.Forbids action
  /-- No turn hands over more than one action, or the same one twice. -/
  dispatched_once : (Event.dispatches turn.events).length ≤ 1
  /-- Of a forbidden action nothing is done, and the first rule that forbids it is named. -/
  blocked : ∀ action earlier rule later, agent.Proposes state action →
    state.book.rules = earlier ++ rule :: later → rule.Forbids action →
    (∀ other ∈ earlier, ¬ other.Forbids action) →
      Event.calls turn.events = [] ∧ turn.state.world.1 = state.world.1 ∧
        ∃ record, agent.recordOf state = .ok record ∧ record.action = some action ∧
          record.result = ⟨false, some ("Blocked: " ++ rule.text)⟩ ∧
          record.violation = some rule.text
  /-- No other turn is recorded with a rule. -/
  unblamed : ¬ agent.Offends state →
    ∀ record, agent.recordOf state = .ok record → record.violation = none
  /-- Every turn can be recorded whose answer is a text, nothing or a fault. -/
  recorded : (∀ reply, agent.Hears state reply → ∀ value, reply ≠ .other value) →
    ∃ record, agent.recordOf state = .ok record
  /-- What is recorded is the record of the turn, unless a diary has no text for it. -/
  kept : agent.diary? = none ∨ turn.IsCountable → turn.record = agent.recordOf state

/-- What is noticed of what is carried is what the world has of it. -/
theorem exists_observe_inventory {world : World} (h : world.observe.toBool = true) :
    ∃ seen, world.observe = .ok seen ∧
      seen.inventory = world.inventory.entries.map fun (name, count) => ⟨name, count⟩ := by
  revert h
  unfold World.observe
  cases world.scan with
  | error fault => exact fun h => nomatch h
  | ok blocks =>
      cases world.beings with
      | error fault => exact fun h => nomatch h
      | ok beings => exact fun _ => ⟨_, rfl, rfl⟩

theorem hoarding_not_isCountable [Json.Nesting] {agent : Agent (World × Nat) γ}
    (hbody : agent.body = scripted.body) {state : State (World × Nat) γ}
    (hworld : state.world.1 = hoard) : ¬ (agent.turn state).IsCountable := by
  rintro ⟨-, hcount⟩
  have hok : hoard.observe.toBool = true := by decide +kernel
  obtain ⟨seen, hobserve, hcarried⟩ := exists_observe_inventory hok
  have hsees : agent.Sees state seen := by
    unfold Sees
    rw [hbody]
    exact (congrArg World.observe hworld).trans hobserve
  have hmem : ⟨"dirt", pow10 longestInteger⟩ ∈ seen.inventory := by
    rw [hcarried]
    exact List.mem_singleton_self _
  have hlong := Json.unwritableInt?_pow10
  rw [Json.unwritableInt?_eq_none.2 (hcount seen (observation?_of_sees hsees) _ hmem)] at hlong
  exact nomatch hlong

/-- With a diary, no turn is recorded in which too much is seen to be carried. -/
theorem diligent_hoarding [Json.Nesting] {state : State (World × Nat) Script}
    (hworld : state.world.1 = hoard) : ∃ fault, (diligent.turn state).record = .error fault := by
  have hbody : diligent.body = scripted.body := rfl
  have hdiary : diligent.diary? = some default := rfl
  have hopening : ∀ writes, diligent.hitch? writes ≠ some .opening := fun _ => nofun
  exact turn_record_of_not_isCountable hdiary hopening (hoarding_not_isCountable hbody hworld)

/-! ## One turn -/

theorem looked_fst {obstacle? : Nat → Option Fault}
    (hbody : agent.body = World.body.obstructed obstacle?) (state : State (World × Nat) γ) :
    (agent.looked state).1 = state.world.1 := by
  unfold looked
  rw [hbody]
  unfold Body.obstructed
  cases hobstacle : obstacle? (state.world.2 + 1) with
  | some fault => simp [hobstacle]
  | none => simp [hobstacle, Body.counted, World.body]

theorem turn_dispatch_iff [Json.Nesting] (action : Action) :
    .dispatch action ∈ (agent.turn state).events ↔
      agent.Proposes state action ∧ ∀ rule ∈ state.book.rules, ¬ rule.Forbids action := by
  rw [← Event.mem_dispatches, ← RuleBook.judge_eq_permitted_iff]
  rcases dispatches_cases agent state with ⟨done, hproposes, hjudge, hdone⟩ | ⟨hnone, hdone⟩
  · rw [hdone, List.mem_singleton]
    constructor
    · rintro rfl
      exact ⟨hproposes, hjudge⟩
    · exact fun h => h.1.eq hproposes
  · rw [hdone]
    exact ⟨fun h => absurd h List.not_mem_nil, fun h => absurd h.2 (hnone action h.1)⟩

theorem turn_blocked [Json.Nesting] {obstacle? : Nat → Option Fault} {action : Action}
    {reason : String} (hbody : agent.body = World.body.obstructed obstacle?)
    (hproposes : agent.Proposes state action) (h : state.book.judge action = .denied reason) :
    Event.calls (agent.turn state).events = [] ∧
      (agent.turn state).state.world.1 = state.world.1 ∧
      ∃ record, agent.recordOf state = .ok record ∧ record.action = some action ∧
        record.result = ⟨false, some ("Blocked: " ++ reason)⟩ ∧
        record.violation = some reason := by
  obtain ⟨seen, reply, hreply, hattempt, hworld, hdeeds⟩ := hproposes.attempt
  obtain ⟨hdenied, hsame, hnone⟩ := act_of_denied h agent (agent.looked state) seen reply
  rw [hdenied] at hattempt
  rw [hsame] at hworld
  refine ⟨?_, ?_, ?_⟩
  · exact (filterMap_turn Event.ofDeeds_call? agent state).trans
      ((hdeeds Event.ofDeeds_call?).trans (hnone Event.ofDeeds_call?))
  · rw [turn_body, hworld, looked_fst hbody]
  · obtain ⟨value, rfl⟩ := Reply.text_of_proposal hreply
    unfold recordOf
    rw [hattempt]
    exact ⟨_, rfl, rfl, rfl, rfl⟩

theorem recordOf_unblamed (h : ¬ agent.Offends state) {record : Record}
    (hrecord : agent.recordOf state = .ok record) : record.violation = none := by
  obtain ⟨-, -, hviolation⟩ := Attempt.record_eq_ok hrecord
  rw [hviolation]
  by_cases hsome : ∃ action, agent.Proposes state action
  · obtain ⟨action, hproposes⟩ := hsome
    have hpermitted : state.book.judge action = .permitted :=
      (RuleBook.judge_eq_permitted_iff _ _).2 fun rule hrule hforbids =>
        h ⟨action, hproposes, rule, hrule, hforbids⟩
    obtain ⟨seen, reply, -, hattempt, -, -⟩ := hproposes.attempt
    obtain ⟨hdispatched, -, -⟩ := act_of_permitted hpermitted agent (agent.looked state) seen reply
    rw [hattempt, hdispatched]
    rfl
  · exact (attempt_of_no_proposal fun action h => hsome ⟨action, h⟩).2.2.1

/-- Every turn in a block world is mediated. -/
theorem turn_mediated [Json.Nesting] {obstacle? : Nat → Option Fault}
    (hbody : agent.body = World.body.obstructed obstacle?) (state : State (World × Nat) γ) :
    agent.Mediated state (agent.turn state) where
  dispatch_iff := turn_dispatch_iff
  dispatched_once := by
    rcases dispatches_cases agent state with ⟨action, -, -, hone⟩ | ⟨-, hnone⟩
    · simp [hone]
    · simp [hnone]
  blocked action earlier rule later hproposes hrules hforbids hearlier :=
    turn_blocked hbody hproposes ((RuleBook.judge_eq_denied_iff _ _ _).2
      ⟨earlier, rule, later, hrules, hforbids, rfl, hearlier⟩)
  unblamed := fun h _ => recordOf_unblamed h
  recorded h := exists_recordOf fun value hhears => h _ hhears value rfl
  kept := turn_record_of_isCountable

/-! ## Whole courses -/

/-- Every turn of every course is mediated by the rules that are in force when it begins: those the
course began with, with all changes since then. -/
theorem course_mediated [Json.Nesting] {obstacle? : Nat → Option Fault}
    (hbody : agent.body = World.body.obstructed obstacle?) (conditions : Conditions) (limit : Nat)
    {start : State (World × Nat) γ} {texts : List String} (hbook : start.book = .ofTexts texts)
    (before : List Event) {place : Nat} {turn : Turn (World × Nat) γ}
    (hturn : (agent.course conditions limit start before).turns[place]? = some turn) :
    agent.Mediated (agent.stateAt conditions.edits start place) turn ∧
      (agent.stateAt conditions.edits start place).book =
        (RuleBook.ofTexts texts).edited (editsBefore conditions.edits place) := by
  constructor
  · rw [course_turn_at hturn]
    exact turn_mediated hbody _
  · rw [stateAt_book, hbook]

section Attacker

attribute [local instance] Json.Nesting.usual

theorem attack_on_player_mediated :
    let agent : Agent (World × Nat) Script :=
      { profile := {}, body := World.body.obstructed fun _ => none, backend := Script.backend
        diary? := none, clock := fun _ => default }
    let start : State (World × Nat) Script :=
      { world := ({}, 0), backend := .ofTexts ["ACTION: attack player"]
        book := .ofTexts ["You must not attack players"] }
    (agent.course {} 1 start []).turns[0]? = some (agent.turn start) ∧ agent.Offends start ∧
      agent.Mediated start (agent.turn start) := by
  intro agent start
  have hturn : (agent.course {} 1 start []).turns[0]? = some (agent.turn start) :=
    course_first_turn agent rfl 0 start
  have hbody : agent.body = World.body.obstructed fun _ => none := rfl
  have hbook : start.book = .ofTexts ["You must not attack players"] := rfl
  have hread : Action.read? "ACTION: attack player" =
      some ⟨"attack", some ["player"], "player"⟩ := by decide +kernel
  have hforbids : (Rule.compile "You must not attack players").Forbids
      ⟨"attack", some ["player"], "player"⟩ := by decide +kernel
  obtain ⟨seen, prompt, hasks⟩ : ∃ seen prompt, agent.Asks start seen prompt :=
    exists_asks (by decide +kernel)
  exact ⟨hturn, ⟨_, ⟨.text "ACTION: attack player", ⟨seen, prompt, hasks, rfl⟩,
    congrArg Except.ok hread⟩, _, List.mem_singleton_self _, hforbids⟩,
    (course_mediated hbody {} 1 hbook [] hturn).1⟩

end Attacker

end Rulebound.Cycle.Agent
