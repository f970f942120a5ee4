import Rulebound.Dispatch
import Rulebound.Proofs.Outcome

/-!
# Which call an action makes

The verb of an action settles what kind of call it makes, and the words of the action make the name
that the call is given. Breaking blocks is the one thing that two verbs lead to. A fault is noted
only if the call meets one.
-/

namespace Rulebound

namespace Call

def verbs : Call → List String
  | moveDirection _ => ["move"]
  | goTo _ => ["goto"]
  | mineBlock _ => ["mine", "collect"]
  | attackEntity _ => ["attack"]
  | craft _ => ["craft"]
  | placeBlock _ => ["place"]
  | eatFood => ["eat"]
  | sleep => ["sleep"]
  | chat _ => ["chat"]
  | lookAt _ => ["look"]

def name? : Call → Option String
  | mineBlock name | attackEntity name | craft name | placeBlock name => some name
  | _ => none

/-- A call that an action can make: the verb leads to it, and its name is the one of the words. -/
def Suits (call : Call) (action : Action) : Prop :=
  action.verb ∈ call.verbs ∧ ∀ name, call.name? = some name → action.joinedName? = some name

end Call

namespace Plan

/-- A plan that an action can have. -/
def Suits (action : Action) : Plan → Prop
  | call request | tell request => request.Suits action
  | look _ => action.verb = "look"
  | unknown | refused _ | idle => True

variable {action : Action}

theorem suits_withName {named : String → Call} (hverb : ∀ name, action.verb ∈ (named name).verbs)
    (hname : ∀ name, (named name).name? = some name) (why : String) :
    (withName action why named).Suits action := by
  unfold withName
  cases hjoined : action.joinedName? with
  | none => trivial
  | some made =>
      refine ⟨hverb made, fun name h => ?_⟩
      rw [hname made, Option.some.injEq] at h
      exact h ▸ hjoined

theorem suits_withDirection {plan : String → Plan} (h : ∀ word, (plan word).Suits action)
    (why : String) : (withDirection action why plan).Suits action := by
  unfold withDirection
  split
  · trivial
  · exact h _

theorem suits_toPoint (hverb : action.verb = "goto") : (toPoint action).Suits action := by
  unfold toPoint
  split
  · trivial
  · split
    · exact ⟨by simp [hverb, Call.verbs], nofun⟩
    · trivial

theorem suits_toSay (hverb : action.verb = "chat") : (toSay action).Suits action := by
  unfold toSay
  dsimp only
  split
  · trivial
  · exact ⟨by simp [hverb, Call.verbs], nofun⟩

theorem suits_toLook (hverb : action.verb = "look") (direction : String) :
    (toLook direction).Suits action := by
  unfold toLook
  split
  · exact hverb
  · trivial

-- One case for each handler of the table, in its order.
theorem suits_ofAction (action : Action) : (ofAction action).Suits action := by
  unfold ofAction
  cases hplan : handlers.lookup action.verb with
  | none => trivial
  | some plan =>
      obtain ⟨before, after, hsplit, -⟩ := List.lookup_eq_some_iff.1 hplan
      have hmem : (action.verb, plan) ∈ handlers := by simp [hsplit]
      simp only [handlers, List.mem_cons, Prod.mk.injEq, List.not_mem_nil, or_false] at hmem
      rcases hmem with ⟨hverb, rfl⟩ | ⟨hverb, rfl⟩ | ⟨hverb, rfl⟩ | ⟨hverb, rfl⟩ | ⟨hverb, rfl⟩ |
        ⟨hverb, rfl⟩ | ⟨hverb, rfl⟩ | ⟨hverb, rfl⟩ | ⟨hverb, rfl⟩ | ⟨hverb, rfl⟩ | ⟨hverb, rfl⟩ |
        ⟨hverb, rfl⟩
      · refine suits_withDirection ?_ _
        intro word
        exact ⟨by simp [hverb, Call.verbs], nofun⟩
      · exact suits_toPoint hverb
      · exact suits_withName (fun name => by simp [hverb, Call.verbs]) (fun _ => rfl) _
      · exact suits_withName (fun name => by simp [hverb, Call.verbs]) (fun _ => rfl) _
      · exact suits_withName (fun name => by simp [hverb, Call.verbs]) (fun _ => rfl) _
      · exact suits_withName (fun name => by simp [hverb, Call.verbs]) (fun _ => rfl) _
      · exact suits_withName (fun name => by simp [hverb, Call.verbs]) (fun _ => rfl) _
      · exact ⟨by simp [hverb, Call.verbs], nofun⟩
      · exact ⟨by simp [hverb, Call.verbs], nofun⟩
      · exact suits_toSay hverb
      · trivial
      · exact suits_withDirection (fun word => suits_toLook hverb word) _

end Plan

theorem Dispatched.ofCall_spec {σ : Type} (body : Body σ) (state : σ) (action : Action)
    (call : Call) (counts : Json → Bool) :
    (ofCall body state action call counts).call? = some call ∧
      (ofCall body state action call counts).state = (body.perform state call).state := by
  unfold ofCall
  cases hresult : (body.perform state call).result <;> simp [hresult]

/-- An action leaves a body alone, or makes one call, which suits it, and leaves the body where the
call leaves it. -/
theorem dispatch_cases {σ : Type} (body : Body σ) (state : σ) (action : Action) :
    ((dispatch body state action).call? = none ∧ (dispatch body state action).state = state) ∨
      ∃ call, call.Suits action ∧ (dispatch body state action).call? = some call ∧
        (dispatch body state action).state = (body.perform state call).state := by
  have hsuits := Plan.suits_ofAction action
  unfold dispatch
  cases hplan : Plan.ofAction action with
  | unknown => exact .inl ⟨rfl, rfl⟩
  | refused why => exact .inl ⟨rfl, rfl⟩
  | idle => exact .inl ⟨rfl, rfl⟩
  | call request =>
      rw [hplan] at hsuits
      exact .inr ⟨request, hsuits, Dispatched.ofCall_spec ..⟩
  | tell request =>
      rw [hplan] at hsuits
      exact .inr ⟨request, hsuits, Dispatched.ofCall_spec ..⟩
  | look offset =>
      rw [hplan] at hsuits
      have hverb : action.verb = "look" := hsuits
      unfold Plan.run
      cases body.position state with
      | error fault => exact .inl ⟨rfl, rfl⟩
      | ok position =>
          have hlook : (Call.lookAt (position + offset)).Suits action :=
            ⟨by simp [hverb, Call.verbs], nofun⟩
          exact .inr ⟨_, hlook, Dispatched.ofCall_spec ..⟩

/-- The words of an action that sends the agent to a point are the coordinates of that point. -/
theorem point?_of_goTo {σ : Type} {body : Body σ} {state : σ} {action : Action} {target : Position}
    (h : (dispatch body state action).call? = some (.goTo target)) :
    Plan.point? action.words = some target := by
  have hverb : action.verb = "goto" := by
    rcases dispatch_cases body state action with ⟨hnone, -⟩ | ⟨call, hsuits, hcall, -⟩
    · exact nomatch hnone.symm.trans h
    · obtain rfl := Option.some.inj (hcall.symm.trans h)
      exact List.mem_singleton.1 hsuits.1
  have hplan : Plan.ofAction action = Plan.toPoint action := by
    unfold Plan.ofAction
    rw [hverb]
    rfl
  unfold dispatch at h
  rw [hplan] at h
  unfold Plan.toPoint at h
  split at h
  · exact nomatch h
  · cases hpoint : Plan.point? action.words with
    | none =>
        rw [hpoint] at h
        exact nomatch h
    | some point =>
        rw [hpoint] at h
        have hcall := (Dispatched.ofCall_spec body state action (.goTo point) Json.isTruthy).1
        rw [Call.goTo.inj (Option.some.inj (hcall.symm.trans h))]

/-! ## Faults -/

theorem Dispatched.faultLog_not_mem_ofCall {σ : Type} {body : Body σ} {state : σ} {call : Call}
    (h : Act.Answers (body.perform · call) state) (action : Action) (counts : Json → Bool) :
    faultLog action ∉ (ofCall body state action call counts).logs := by
  obtain ⟨answer, hanswer⟩ := h.answered
  unfold ofCall
  simp only [hanswer]
  intro hmem
  exact nomatch (h.calm _ hmem : Log.Level.error = .info)

theorem faultLog_not_mem_dispatch {σ : Type} {body : Body σ} {state : σ} {action : Action}
    (hposition : ∃ position, body.position state = .ok position)
    (h : ∀ call, (dispatch body state action).call? = some call →
      Act.Answers (body.perform · call) state) :
    Dispatched.faultLog action ∉ (dispatch body state action).logs := by
  unfold dispatch at h ⊢
  cases hplan : Plan.ofAction action with
  | unknown => simp [Plan.run, Dispatched.without, Dispatched.faultLog, Log.Line.error,
      Log.Line.warning]
  | refused why => simp [Plan.run, Dispatched.without, Dispatched.faultLog, Log.Line.error,
      Log.Line.info]
  | idle => simp [Plan.run, Dispatched.without, Dispatched.faultLog, Log.Line.error,
      Log.Line.info]
  | call request =>
      rw [hplan] at h
      exact Dispatched.faultLog_not_mem_ofCall (h _ (Dispatched.ofCall_spec ..).1) _ _
  | tell request =>
      rw [hplan] at h
      exact Dispatched.faultLog_not_mem_ofCall (h _ (Dispatched.ofCall_spec ..).1) _ _
  | look offset =>
      obtain ⟨position, hposition⟩ := hposition
      rw [hplan] at h
      simp only [Plan.run, hposition] at h ⊢
      exact Dispatched.faultLog_not_mem_ofCall (h _ (Dispatched.ofCall_spec ..).1) _ _

end Rulebound
