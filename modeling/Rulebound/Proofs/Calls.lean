import Rulebound.Proofs.Dispatch
import Rulebound.Proofs.Text.Blank

/-!
# What an action asks for

Each verb asks for one kind of call, if the action has the shape that the verb needs. That call is
made and no other, whatever the body answers, and what the action comes to follows from the answer
alone.
-/

namespace Rulebound

/-! ## Asking -/

namespace Call

/-- The verbs whose words make one name, each with the call that is given the name. -/
def named : List (String × (String → Call)) :=
  [("mine", mineBlock), ("collect", mineBlock), ("attack", attackEntity), ("craft", craft),
    ("place", placeBlock)]

end Call

/-- A point whose coordinates are finite and are read from three texts. -/
structure Position.ReadsFrom (target : Position) (x y z : String) : Prop where
  x_read : Binary64.read? x = some target.x
  y_read : Binary64.read? y = some target.y
  z_read : Binary64.read? z = some target.z
  finite : target.x.isFinite = true ∧ target.y.isFinite = true ∧ target.z.isFinite = true

/-- What an action asks of a body, which may be asked first where it is. -/
inductive Action.Asks (action : Action) (here : Except Fault Position) : Call → Prop
  | move {word : String} {others : List String} (verb : action.verb = "move")
      (words : action.words = word :: others) : Asks action here (.moveDirection (Text.lower word))
  | goTo {x y z : String} {target : Position} (verb : action.verb = "goto")
      (words : action.words = [x, y, z]) (reads : target.ReadsFrom x y z) :
      Asks action here (.goTo target)
  | named {make : String → Call} (verb : Call.named.lookup action.verb = some make)
      (words : action.words ≠ []) :
      Asks action here (make (Text.lower (Text.join "_" action.words)))
  | eat (verb : action.verb = "eat") : Asks action here .eatFood
  | sleep (verb : action.verb = "sleep") : Asks action here .sleep
  | chat (verb : action.verb = "chat") (message : Text.trim action.raw.toList ≠ []) :
      Asks action here (.chat (String.ofList (Text.trim action.raw.toList)))
  | look {word : String} {others : List String} {offset position : Position}
      (verb : action.verb = "look") (words : action.words = word :: others)
      (direction : Plan.lookOffset? (Text.lower word) = some offset) (seen : here = .ok position) :
      Asks action here (.lookAt (position + offset))

namespace Plan

variable {action : Action} {here : Except Fault Position} {call : Call}

/-- The call that a plan leads to. -/
def call? (here : Except Fault Position) : Plan → Option Call
  | .call request | tell request => some request
  | look offset => here.toOption.map fun position => .lookAt (position + offset)
  | unknown | refused _ | idle => none

theorem call?_withDirection {why : String} {plan : String → Plan} :
    (withDirection action why plan).call? here = some call ↔
      ∃ word others, action.words = word :: others ∧
        (plan (Text.lower word)).call? here = some call := by
  unfold withDirection
  cases action.words with
  | nil => exact ⟨nofun, nofun⟩
  | cons word others =>
      constructor
      · exact fun h => ⟨word, others, rfl, h⟩
      · rintro ⟨word, others, hwords, h⟩
        obtain ⟨rfl, rfl⟩ := List.cons.inj hwords
        exact h

theorem call?_withName {why : String} {make : String → Call} :
    (withName action why make).call? here = some call ↔
      action.words ≠ [] ∧ make (Text.lower (Text.join "_" action.words)) = call := by
  unfold withName Action.joinedName?
  cases hwords : action.words with
  | nil => simp [call?]
  | cons word others => simp [call?]

theorem point?_eq_some {words : List String} {target : Position} :
    point? words = some target ↔ ∃ x y z, words = [x, y, z] ∧ target.ReadsFrom x y z := by
  constructor
  · intro h
    unfold point? at h
    split at h
    · rename_i x y z
      simp only [Option.bind_eq_bind, Option.bind_eq_some_iff] at h
      obtain ⟨px, hx, py, hy, pz, hz, hpoint⟩ := h
      split at hpoint
      · rename_i hfinite
        obtain rfl := Option.some.inj hpoint
        simp only [Bool.and_eq_true] at hfinite
        exact ⟨x, y, z, rfl, hx, hy, hz, hfinite.1.1, hfinite.1.2, hfinite.2⟩
      · exact nomatch hpoint
    · exact nomatch h
  · rintro ⟨x, y, z, rfl, ⟨hx, hy, hz, hfx, hfy, hfz⟩⟩
    simp [point?, hx, hy, hz, hfx, hfy, hfz]

theorem call?_toPoint : (toPoint action).call? here = some call ↔
    ∃ target, point? action.words = some target ∧ .goTo target = call := by
  unfold toPoint
  split
  · rename_i hlength
    refine ⟨nofun, ?_⟩
    rintro ⟨target, hpoint, -⟩
    obtain ⟨x, y, z, hwords, -⟩ := point?_eq_some.1 hpoint
    exact absurd (by rw [hwords]; rfl) hlength
  · cases point? action.words with
    | none => simp only [call?, reduceCtorEq, false_and, exists_false]
    | some point =>
        constructor
        · exact fun h => ⟨point, rfl, Option.some.inj h⟩
        · rintro ⟨target, hpoint, rfl⟩
          obtain rfl := Option.some.inj hpoint
          rfl

theorem call?_toSay : (toSay action).call? here = some call ↔
    Text.trim action.raw.toList ≠ [] ∧
      .chat (String.ofList (Text.trim action.raw.toList)) = call := by
  unfold toSay
  simp only [String.ofList_eq_empty_iff]
  by_cases hblank : Text.trim action.raw.toList = []
  · rw [if_pos hblank]
    exact ⟨nofun, fun h => absurd hblank h.1⟩
  · rw [if_neg hblank]
    simp [call?, hblank]

theorem call?_toLook {direction : String} : (toLook direction).call? here = some call ↔
    ∃ offset position, lookOffset? direction = some offset ∧ here = .ok position ∧
      .lookAt (position + offset) = call := by
  unfold toLook
  cases lookOffset? direction with
  | none => simp [call?]
  | some offset =>
      cases here with
      | error fault => simp [call?, Except.toOption]
      | ok position => simp [call?, Except.toOption]

theorem ofAction_eq {plan : Action → Plan} (h : handlers.lookup action.verb = some plan) :
    ofAction action = plan action := by
  unfold ofAction
  rw [h]

theorem ofAction_cases (action : Action) :
    (∃ plan, (action.verb, plan) ∈ handlers ∧ ofAction action = plan action) ∨
      (action.verb ∉ verbs ∧ ofAction action = unknown) := by
  cases hplan : handlers.lookup action.verb with
  | some plan =>
      obtain ⟨before, after, hsplit, -⟩ := List.lookup_eq_some_iff.1 hplan
      exact .inl ⟨plan, by simp [hsplit], ofAction_eq hplan⟩
  | none =>
      refine .inr ⟨?_, by rw [ofAction, hplan]⟩
      intro hverb
      obtain ⟨entry, hmem, hentry⟩ := List.mem_map.1 hverb
      have hnone := List.lookup_eq_none_iff.1 hplan entry hmem
      simp [hentry] at hnone

theorem call?_of_asks (h : action.Asks here call) :
    (ofAction action).call? here = some call := by
  cases h with
  | @move word others verb words =>
      have hplan : ofAction action = withDirection action "Move requires a direction"
          fun word => .call (.moveDirection word) := by
        unfold ofAction
        rw [verb]
        rfl
      rw [hplan, call?_withDirection]
      exact ⟨word, others, words, rfl⟩
  | @goTo x y z target verb words reads =>
      have hplan : ofAction action = toPoint action := by
        unfold ofAction
        rw [verb]
        rfl
      rw [hplan, call?_toPoint]
      exact ⟨target, point?_eq_some.2 ⟨x, y, z, words, reads⟩, rfl⟩
  | @named make verb words =>
      obtain ⟨why, hplan⟩ : ∃ why, ofAction action = withName action why make := by
        obtain ⟨before, after, hsplit, -⟩ := List.lookup_eq_some_iff.1 verb
        have hmem : (action.verb, make) ∈ Call.named := by simp [hsplit]
        simp only [Call.named, List.mem_cons, Prod.mk.injEq, List.not_mem_nil, or_false] at hmem
        unfold ofAction
        rcases hmem with ⟨hverb, rfl⟩ | ⟨hverb, rfl⟩ | ⟨hverb, rfl⟩ | ⟨hverb, rfl⟩ | ⟨hverb, rfl⟩
        all_goals
          rw [hverb]
          exact ⟨_, rfl⟩
      rw [hplan, call?_withName]
      exact ⟨words, rfl⟩
  | eat verb =>
      unfold ofAction
      rw [verb]
      rfl
  | sleep verb =>
      unfold ofAction
      rw [verb]
      rfl
  | chat verb message =>
      have hplan : ofAction action = toSay action := by
        unfold ofAction
        rw [verb]
        rfl
      rw [hplan, call?_toSay]
      exact ⟨message, rfl⟩
  | @look word others offset position verb words direction seen =>
      have hplan : ofAction action = withDirection action "Look requires a direction" toLook := by
        unfold ofAction
        rw [verb]
        rfl
      rw [hplan, call?_withDirection]
      exact ⟨word, others, words, call?_toLook.2 ⟨offset, position, direction, seen, rfl⟩⟩

theorem asks_named {why : String} {make : String → Call}
    (hverb : Call.named.lookup action.verb = some make)
    (h : (withName action why make).call? here = some call) : action.Asks here call := by
  obtain ⟨hwords, rfl⟩ := call?_withName.1 h
  exact .named hverb hwords

theorem asks_iff : action.Asks here call ↔ (ofAction action).call? here = some call := by
  refine ⟨call?_of_asks, fun h => ?_⟩
  rcases ofAction_cases action with ⟨plan, hmem, hplan⟩ | ⟨-, hunknown⟩
  · rw [hplan] at h
    simp only [handlers, List.mem_cons, Prod.mk.injEq, List.not_mem_nil, or_false] at hmem
    rcases hmem with ⟨hverb, rfl⟩ | ⟨hverb, rfl⟩ | ⟨hverb, rfl⟩ | ⟨hverb, rfl⟩ | ⟨hverb, rfl⟩ |
      ⟨hverb, rfl⟩ | ⟨hverb, rfl⟩ | ⟨hverb, rfl⟩ | ⟨hverb, rfl⟩ | ⟨hverb, rfl⟩ | ⟨hverb, rfl⟩ |
      ⟨hverb, rfl⟩
    · obtain ⟨word, others, hwords, hcall⟩ := call?_withDirection.1 h
      obtain rfl := Option.some.inj hcall
      exact .move hverb hwords
    · obtain ⟨target, hpoint, rfl⟩ := call?_toPoint.1 h
      obtain ⟨x, y, z, hwords, hreads⟩ := point?_eq_some.1 hpoint
      exact .goTo hverb hwords hreads
    · exact asks_named (by rw [hverb]; rfl) h
    · exact asks_named (by rw [hverb]; rfl) h
    · exact asks_named (by rw [hverb]; rfl) h
    · exact asks_named (by rw [hverb]; rfl) h
    · exact asks_named (by rw [hverb]; rfl) h
    · obtain rfl := Option.some.inj h
      exact .eat hverb
    · obtain rfl := Option.some.inj h
      exact .sleep hverb
    · obtain ⟨hmessage, rfl⟩ := call?_toSay.1 h
      exact .chat hverb hmessage
    · exact absurd h.symm (Option.some_ne_none call)
    · obtain ⟨word, others, hwords, hcall⟩ := call?_withDirection.1 h
      obtain ⟨offset, position, hoffset, hhere, rfl⟩ := call?_toLook.1 hcall
      exact .look hverb hwords hoffset hhere
  · rw [hunknown] at h
    exact absurd h.symm (Option.some_ne_none call)

/-- How a verb counts what comes of its plan: waiting succeeds, what is said counts as soon as it is
said, and every other answer counts by itself. -/
def Settles (action : Action) : Plan → Prop
  | idle => action.verb = "wait"
  | tell _ => action.verb = "chat"
  | .call _ | look _ => action.verb ≠ "wait" ∧ action.verb ≠ "chat"
  | unknown | refused _ => action.verb ≠ "wait"

theorem settles_ofAction (action : Action) : (ofAction action).Settles action := by
  rcases ofAction_cases action with ⟨plan, hmem, hplan⟩ | ⟨hverb, hunknown⟩
  · rw [hplan]
    simp only [handlers, List.mem_cons, Prod.mk.injEq, List.not_mem_nil, or_false] at hmem
    rcases hmem with ⟨hverb, rfl⟩ | ⟨hverb, rfl⟩ | ⟨hverb, rfl⟩ | ⟨hverb, rfl⟩ | ⟨hverb, rfl⟩ |
      ⟨hverb, rfl⟩ | ⟨hverb, rfl⟩ | ⟨hverb, rfl⟩ | ⟨hverb, rfl⟩ | ⟨hverb, rfl⟩ | ⟨hverb, rfl⟩ |
      ⟨hverb, rfl⟩
    all_goals simp only [withDirection, withName, toPoint, toSay, toLook]
    all_goals repeat' split
    all_goals simp [Settles, hverb]
  · rw [hunknown]
    have hwait : "wait" ∈ verbs := by decide
    exact fun h => hverb (h ▸ hwait)

end Plan

/-! ## Recording -/

/-- A body that also keeps a list of all calls that reach it. -/
def Body.recording {σ : Type} (body : Body σ) : Body (σ × List Call) where
  connect state :=
    let outcome := body.connect state.1
    ⟨(outcome.state, state.2), outcome.result, outcome.logs⟩
  disconnect state :=
    let (after, logs) := body.disconnect state.1
    ((after, state.2), logs)
  observe state :=
    let outcome := body.observe state.1
    ⟨(outcome.state, state.2), outcome.result, outcome.logs⟩
  position state := body.position state.1
  perform state call :=
    let outcome := body.perform state.1 call
    ⟨(outcome.state, state.2 ++ [call]), outcome.result, outcome.logs⟩

variable {σ : Type}

theorem Dispatched.ofCall_recording (body : Body σ) (state : σ) (made : List Call)
    (action : Action) (call : Call) (counts : Json → Bool) :
    (ofCall body.recording (state, made) action call counts).state.2 = made ++ [call] ∧
      (ofCall body.recording (state, made) action call counts).ok =
        (ofCall body state action call counts).ok := by
  unfold ofCall Body.recording
  cases hresult : (body.perform state call).result <;> simp [hresult]

/-- The calls that reach a body are those of the plan, and recording them changes nothing else. -/
theorem dispatch_recording (body : Body σ) (state : σ) (made : List Call) (action : Action) :
    (dispatch body.recording (state, made) action).state.2 =
        made ++ ((Plan.ofAction action).call? (body.position state)).toList ∧
      (dispatch body.recording (state, made) action).ok = (dispatch body state action).ok := by
  unfold dispatch
  cases hplan : Plan.ofAction action with
  | unknown => exact ⟨(List.append_nil made).symm, rfl⟩
  | refused why => exact ⟨(List.append_nil made).symm, rfl⟩
  | idle => exact ⟨(List.append_nil made).symm, rfl⟩
  | call request => exact Dispatched.ofCall_recording ..
  | tell request => exact Dispatched.ofCall_recording ..
  | look offset =>
      have hposition : body.recording.position (state, made) = body.position state := rfl
      simp only [Plan.run, hposition]
      cases body.position state with
      | error fault => exact ⟨(List.append_nil made).symm, rfl⟩
      | ok position => exact Dispatched.ofCall_recording ..

/-! ## Success -/

theorem Dispatched.ofCall_ok_iff (body : Body σ) (state : σ) (action : Action) (call : Call)
    (counts : Json → Bool) :
    (ofCall body state action call counts).ok = true ↔
      ∃ answer, (body.perform state call).result = .ok answer ∧ counts answer = true := by
  unfold ofCall
  cases hresult : (body.perform state call).result <;> simp [hresult]

theorem Plan.run_ok_iff (body : Body σ) (state : σ) (action : Action) {plan : Plan}
    (h : plan.Settles action) :
    (plan.run body state action).ok = true ↔
      action.verb = "wait" ∨ ∃ call answer, plan.call? (body.position state) = some call ∧
        (body.perform state call).result = .ok answer ∧
        (action.verb = "chat" ∨ answer.isTruthy = true) := by
  cases plan with
  | unknown =>
      have hverb : action.verb ≠ "wait" := h
      simp [run, Dispatched.without, call?, hverb]
  | refused why =>
      have hverb : action.verb ≠ "wait" := h
      simp [run, Dispatched.without, call?, hverb]
  | idle =>
      have hverb : action.verb = "wait" := h
      simp [run, Dispatched.without, hverb]
  | call request =>
      obtain ⟨hwait, hchat⟩ := h
      rw [run, Dispatched.ofCall_ok_iff]
      simp [call?, hwait, hchat]
  | tell request =>
      have hverb : action.verb = "chat" := h
      rw [run, Dispatched.ofCall_ok_iff]
      simp [call?, hverb]
  | look offset =>
      obtain ⟨hwait, hchat⟩ := h
      unfold run call?
      cases body.position state with
      | error fault => simp [Dispatched.without, Except.toOption, hwait]
      | ok position =>
          simp only [Dispatched.ofCall_ok_iff]
          simp [Except.toOption, hwait, hchat]

/-! ## The law of actions -/

/-- What an action comes to with a body in a state: whether it succeeded, and the calls that reached
the body. -/
structure Action.ComesTo (action : Action) (body : Body σ) (state : σ) (ok : Bool)
    (calls : List Call) : Prop where
  at_most_one : calls.length ≤ 1
  asked : ∀ call, call ∈ calls ↔ action.Asks (body.position state) call
  unknown : action.verb ∉ Plan.verbs → calls = []
  wordless : action.words = [] →
    action.verb ∈ "move" :: "look" :: Call.named.map Prod.fst → calls = []
  no_point : action.verb = "goto" →
    (∀ x y z target, action.words = [x, y, z] → ¬ Position.ReadsFrom target x y z) → calls = []
  no_direction : action.verb = "look" → (∀ word others, action.words = word :: others →
    Plan.lookOffset? (Text.lower word) = none) → calls = []
  blank : action.verb = "chat" → (∀ c ∈ action.raw.toList, Text.isBlank c = true) → calls = []
  named : ∀ make, Call.named.lookup action.verb = some make → action.words ≠ [] →
    calls = [make (Text.lower (Text.join "_" action.words))]
  succeeds : ok = true ↔ action.verb = "wait" ∨ ∃ call answer, calls = [call] ∧
    (body.perform state call).result = .ok answer ∧
    (action.verb = "chat" ∨ answer.isTruthy = true)

theorem Call.mem_named {verb : String} {make : String → Call}
    (h : Call.named.lookup verb = some make) : verb ∈ Call.named.map Prod.fst := by
  obtain ⟨before, after, hsplit, -⟩ := List.lookup_eq_some_iff.1 h
  simp [hsplit]

namespace Action.Asks

variable {action : Action} {here : Except Fault Position} {call : Call}

theorem verb_mem (h : action.Asks here call) : action.verb ∈ Plan.verbs := by
  cases h with
  | @named make verb words =>
      have hverbs : ∀ verb ∈ Call.named.map Prod.fst, verb ∈ Plan.verbs := by decide
      exact hverbs _ (Call.mem_named verb)
  | move verb words => exact verb ▸ by decide
  | goTo verb words reads => exact verb ▸ by decide
  | eat verb => exact verb ▸ by decide
  | sleep verb => exact verb ▸ by decide
  | chat verb message => exact verb ▸ by decide
  | look verb words direction seen => exact verb ▸ by decide

theorem words_ne_nil (h : action.Asks here call)
    (hverb : action.verb ∈ "move" :: "look" :: Call.named.map Prod.fst) : action.words ≠ [] := by
  cases h with
  | move verb words => simp [words]
  | named verb words => exact words
  | look verb words direction seen => simp [words]
  | goTo verb words reads => simp [words]
  | eat verb =>
      rw [verb] at hverb
      exact absurd hverb (by decide)
  | sleep verb =>
      rw [verb] at hverb
      exact absurd hverb (by decide)
  | chat verb message =>
      rw [verb] at hverb
      exact absurd hverb (by decide)

theorem point (h : action.Asks here call) (hverb : action.verb = "goto") :
    ∃ x y z target, action.words = [x, y, z] ∧ Position.ReadsFrom target x y z := by
  cases h with
  | goTo verb words reads => exact ⟨_, _, _, _, words, reads⟩
  | named verb words =>
      rw [hverb] at verb
      exact nomatch verb
  | _ verb => exact absurd (hverb.symm.trans verb) (by decide)

theorem direction (h : action.Asks here call) (hverb : action.verb = "look") :
    ∃ word others offset, action.words = word :: others ∧
      Plan.lookOffset? (Text.lower word) = some offset := by
  cases h with
  | look verb words direction seen => exact ⟨_, _, _, words, direction⟩
  | named verb words =>
      rw [hverb] at verb
      exact nomatch verb
  | _ verb => exact absurd (hverb.symm.trans verb) (by decide)

theorem message (h : action.Asks here call) (hverb : action.verb = "chat") :
    Text.trim action.raw.toList ≠ [] := by
  cases h with
  | chat verb message => exact message
  | named verb words =>
      rw [hverb] at verb
      exact nomatch verb
  | _ verb => exact absurd (hverb.symm.trans verb) (by decide)

end Action.Asks

/-- Every action comes to at most one call of a body, whatever the body answers and wherever it says
to be; whether the action succeeded follows from the answer to that call. -/
theorem action_makes_at_most_one_call (body : Body σ) (state : σ) (action : Action) :
    action.ComesTo body state (dispatch body.recording (state, []) action).ok
      (dispatch body.recording (state, []) action).state.2 := by
  obtain ⟨hcalls, hok⟩ := dispatch_recording body state [] action
  rw [hcalls, hok, List.nil_append]
  have hasked : ∀ call, (Plan.ofAction action).call? (body.position state) = some call ↔
      action.Asks (body.position state) call := fun call => Plan.asks_iff.symm
  have hsucceeds : (dispatch body state action).ok = true ↔ _ :=
    Plan.run_ok_iff body state action (Plan.settles_ofAction action)
  simp only [hasked] at hsucceeds
  generalize (Plan.ofAction action).call? (body.position state) = call? at hasked
  have hnone : (∀ call, ¬ action.Asks (body.position state) call) → call?.toList = [] := by
    intro h
    rw [Option.eq_none_iff_forall_ne_some.2 fun call hcall => h call ((hasked call).1 hcall)]
    rfl
  have hone : ∀ call, call?.toList = [call] ↔ action.Asks (body.position state) call := by
    intro call
    rw [← hasked, Option.toList_eq_singleton_iff]
  exact {
    at_most_one := by cases call? <;> simp
    asked := fun call => by rw [Option.mem_toList, hasked]
    unknown := fun hverb => hnone fun call hasks => hverb hasks.verb_mem
    wordless := fun hwords hverb => hnone fun call hasks => hasks.words_ne_nil hverb hwords
    no_point := fun hverb hpoint => hnone fun call hasks => by
      obtain ⟨x, y, z, target, hwords, hreads⟩ := hasks.point hverb
      exact hpoint x y z target hwords hreads
    no_direction := fun hverb hdirection => hnone fun call hasks => by
      obtain ⟨word, others, offset, hwords, hoffset⟩ := hasks.direction hverb
      exact nomatch hoffset.symm.trans (hdirection word others hwords)
    blank := fun hverb hblank => hnone fun call hasks =>
      hasks.message hverb (Text.trim_eq_nil hblank)
    named := fun make hmake hwords => (hone _).2 (.named hmake hwords)
    succeeds := by simp only [hsucceeds, hone] }

end Rulebound
