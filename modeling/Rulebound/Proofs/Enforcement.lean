import Rulebound.Proofs.Dispatch
import Rulebound.Proofs.Mediation
import Rulebound.Proofs.Scope

/-!
# Prohibitions at the body

A rule is weighed against the words of an action, and the body is given a call. Where one verb alone
leads to a kind of call, a prohibition of the verb keeps the call from being made with a name that
the prohibition is about. Blocks are broken by two verbs, each of which has to be prohibited by
itself.
-/

namespace Rulebound.Cycle.Agent

variable {σ γ : Type} {agent : Agent σ γ} {conditions : Conditions} {limit : Nat}
  {start : State σ γ} {before : List Event}

/-- A rule that is in force at every turn of a course. -/
def Keeps [Json.Nesting] (agent : Agent σ γ) (conditions : Conditions) (limit : Nat)
    (start : State σ γ) (before : List Event) (rule : Rule) : Prop :=
  ∀ place < (agent.course conditions limit start before).turns.length,
    rule ∈ (start.book.edited (editsBefore conditions.edits place)).rules

theorem keeps_of_no_edits [Json.Nesting] {rule : Rule} (hrule : rule ∈ start.book.rules)
    (hedits : ∀ place, conditions.edits place = []) :
    agent.Keeps conditions limit start before rule := by
  intro place _
  have hnone : editsBefore conditions.edits place = [] := by simp [editsBefore, hedits]
  rw [hnone, RuleBook.edited_nil]
  exact hrule

/-! ## Calls and the rules in force -/

/-- A turn makes no call and leaves the body where it was left by looking, or it makes one call, for
an action that the call suits and that no rule in force forbids. -/
theorem turn_unforbidden [Json.Nesting] (agent : Agent σ γ) (state : State σ γ) :
    (Event.calls (agent.turn state).events = [] ∧
      (agent.turn state).state.world = agent.looked state) ∨
    ∃ action call, call.Suits action ∧ (∀ rule ∈ state.book.rules, ¬ rule.Forbids action) ∧
      (agent.turn state).attempt.action? = some action ∧
      Event.calls (agent.turn state).events = [call] ∧
      (agent.turn state).state.world = (agent.body.perform (agent.looked state) call).state := by
  rcases turn_cases agent state with hnothing | ⟨action, hjudge, haction, hcalls, hworld⟩
  · exact .inl hnothing
  · rcases dispatch_cases agent.body (agent.looked state) action with
      ⟨hnone, hleft⟩ | ⟨call, hsuits, hcall, hleft⟩
    · exact .inl ⟨by rw [hcalls, hnone]; rfl, hworld.trans hleft⟩
    · refine .inr ⟨action, call, hsuits, (RuleBook.judge_eq_permitted_iff _ _).1 hjudge,
        haction, ?_, hworld.trans hleft⟩
      rw [hcalls, hcall]
      rfl

theorem course_turn_call [Json.Nesting] {turn : Turn σ γ} {call : Call}
    (hturn : turn ∈ (agent.course conditions limit start before).turns)
    (hcall : call ∈ Event.calls turn.events) :
    ∃ action, turn.attempt.action? = some action ∧ call.Suits action ∧
      ∀ rule, agent.Keeps conditions limit start before rule → ¬ rule.Forbids action := by
  obtain ⟨place, hplace⟩ := List.mem_iff_getElem?.1 hturn
  have hlt : place < (agent.course conditions limit start before).turns.length :=
    (List.getElem?_eq_some_iff.1 hplace).1
  rw [course_turn_at hplace] at hcall ⊢
  rcases turn_unforbidden agent (agent.stateAt conditions.edits start place) with
    ⟨hnone, -⟩ | ⟨action, made, hsuits, hpermitted, haction, hmade, -⟩
  · rw [hnone] at hcall
    exact absurd hcall List.not_mem_nil
  · rw [hmade, List.mem_singleton] at hcall
    subst hcall
    refine ⟨action, haction, hsuits, fun rule hkept => hpermitted rule ?_⟩
    rw [stateAt_book]
    exact hkept place hlt

theorem scripted_keeps [Json.Nesting] {world : World} {answers rules : List String} {rule : String}
    (h : rule ∈ rules) (limit : Nat) :
    scripted.Keeps {} limit (scriptedStart world answers rules) [] (Rule.compile rule) :=
  keeps_of_no_edits (List.mem_map_of_mem h) fun _ => rfl

/-! ## Verbs that alone lead to their calls -/

def soleVerbs : List (String × (String → Call)) :=
  [("attack", .attackEntity), ("craft", .craft), ("place", .placeBlock)]

theorem soleVerbs_spec {verb : String} {capability : String → Call}
    (h : (verb, capability) ∈ soleVerbs) (name : String) :
    (capability name).verbs = [verb] ∧ (capability name).name? = some name := by
  simp only [soleVerbs, List.mem_cons, Prod.mk.injEq, List.not_mem_nil, or_false] at h
  rcases h with ⟨rfl, rfl⟩ | ⟨rfl, rfl⟩ | ⟨rfl, rfl⟩
  all_goals exact ⟨rfl, rfl⟩

/-- Under a prohibition of attacking, crafting or placing, the body is asked to do so only with
names that the prohibition leaves alone. -/
theorem course_spares [Json.Nesting] {verb : String} {capability : String → Call}
    (hverb : (verb, capability) ∈ soleVerbs) {text : String} {scope : Scope}
    (hrule : Rule.compile text = .prohibition scope text) (haction : scope.action = some verb)
    (hkept : agent.Keeps conditions limit start before (Rule.compile text)) {name : String}
    (hcall : capability name ∈ Event.calls
      ((agent.course conditions limit start before).trace.drop before.length)) :
    scope.Spares verb name := by
  obtain ⟨place, turn, hplace, hmade⟩ := course_call hcall
  obtain ⟨action, -, ⟨hsuitsVerb, hsuitsName⟩, hpermitted⟩ :=
    course_turn_call (List.mem_of_getElem? hplace) hmade
  obtain ⟨hverbs, hname⟩ := soleVerbs_spec hverb name
  have hsame : action.verb = verb := by simpa [hverbs] using hsuitsVerb
  subst hsame
  exact Rule.spares_of_not_forbids hrule haction (hsuitsName name hname)
    (hpermitted _ hkept)

section Spared

attribute [local instance] Json.Nesting.usual

theorem zombie_attacked_players_spared :
    let start := scriptedStart {} ["ACTION: attack zombie"] ["Cannot attack players"]
    .attackEntity "zombie" ∈ Event.calls (scripted.course {} 1 start []).trace ∧
      Scope.Spares ⟨some "attack", some "players"⟩ "attack" "zombie" := by
  intro start
  have hcall : .attackEntity "zombie" ∈ Event.calls (scripted.course {} 1 start []).trace := by
    decide +kernel
  have hrule : Rule.compile "Cannot attack players" =
      .prohibition ⟨some "attack", some "players"⟩ "Cannot attack players" := by
    decide
  exact ⟨hcall, course_spares (.head _) hrule rfl (scripted_keeps (.head _) 1) hcall⟩

end Spared

/-! ## Breaking blocks -/

theorem course_collects [Json.Nesting] {text : String} {scope : Scope}
    (hrule : Rule.compile text = .prohibition scope text) (hmine : scope.action = some "mine")
    (htarget : scope.target ≠ some "players")
    (hkept : agent.Keeps conditions limit start before (Rule.compile text)) {turn : Turn σ γ}
    (hturn : turn ∈ (agent.course conditions limit start before).turns) {name : String}
    (hcall : .mineBlock name ∈ Event.calls turn.events) (hnames : scope.names name = true) :
    ∃ action, turn.attempt.action? = some action ∧ action.verb = "collect" ∧
      action.joinedName? = some name ∧
      ∀ rule, agent.Keeps conditions limit start before rule → ¬ rule.Forbids action := by
  obtain ⟨action, haction, ⟨hverb, hname⟩, hpermitted⟩ := course_turn_call hturn hcall
  have hname : action.joinedName? = some name := hname name rfl
  have hverbs : action.verb = "mine" ∨ action.verb = "collect" := by
    simpa [Call.verbs] using hverb
  rcases hverbs with hmined | hcollected
  · have hsame : scope.action = some action.verb := by rw [hmine, hmined]
    have hspares := Rule.spares_of_not_forbids hrule hsame hname (hpermitted _ hkept)
    rw [hspares.names_eq_false htarget] at hnames
    exact Bool.noConfusion hnames
  · exact ⟨action, haction, hcollected, hname, hpermitted⟩

/-- Under a prohibition of mining, the blocks that it is about are broken only in turns whose action
collects. If collecting the same is prohibited too, they are not broken at all. -/
theorem course_mining [Json.Nesting] {text : String} {target? : Option String}
    (hrule : Rule.compile text = .prohibition ⟨some "mine", target?⟩ text)
    (htarget : target? ≠ some "players")
    (hkept : agent.Keeps conditions limit start before (Rule.compile text)) :
    (∀ turn ∈ (agent.course conditions limit start before).turns, ∀ name,
      .mineBlock name ∈ Event.calls turn.events → Scope.names ⟨some "mine", target?⟩ name = true →
        ∃ action, turn.attempt.action? = some action ∧ action.verb = "collect") ∧
    ∀ other, Rule.compile other = .prohibition ⟨some "collect", target?⟩ other →
      agent.Keeps conditions limit start before (Rule.compile other) → ∀ name,
        .mineBlock name ∈ Event.calls
          ((agent.course conditions limit start before).trace.drop before.length) →
        Scope.names ⟨some "mine", target?⟩ name = false := by
  constructor
  · intro turn hturn name hcall hnames
    obtain ⟨action, haction, hverb, -⟩ :=
      course_collects hrule rfl htarget hkept hturn hcall hnames
    exact ⟨action, haction, hverb⟩
  · intro other hother hotherKept name hcall
    obtain ⟨place, turn, hplace, hmade⟩ := course_call hcall
    rw [← Bool.not_eq_true]
    intro hnames
    obtain ⟨action, -, hverb, hname, hpermitted⟩ :=
      course_collects hrule rfl htarget hkept (List.mem_of_getElem? hplace) hmade hnames
    have hspares := Rule.spares_of_not_forbids hother (congrArg some hverb.symm) hname
      (hpermitted _ hotherKept)
    -- both scopes have the same target, so they are about the same names
    have hnot : Scope.names ⟨some "collect", target?⟩ name = false :=
      hspares.names_eq_false htarget
    exact Bool.noConfusion (hnames.symm.trans hnot)

section Collected

attribute [local instance] Json.Nesting.usual

theorem oak_collected_until_prohibited :
    let start := scriptedStart {} ["ACTION: collect oak_log", "ACTION: mine dirt"]
    let mining := "You must not mine oak"
    let collecting := "You must not collect oak"
    (∃ turn ∈ (scripted.course {} 2 (start [mining]) []).turns,
      .mineBlock "oak_log" ∈ Event.calls turn.events ∧
        ∃ action, turn.attempt.action? = some action ∧ action.verb = "collect") ∧
    .mineBlock "dirt" ∈ Event.calls (scripted.course {} 2 (start [mining, collecting]) []).trace ∧
    ∀ name, .mineBlock name ∈
        Event.calls (scripted.course {} 2 (start [mining, collecting]) []).trace →
      Scope.names ⟨some "mine", some "oak"⟩ name = false := by
  intro start mining collecting
  have hmining : Rule.compile mining = .prohibition ⟨some "mine", some "oak"⟩ mining := by
    decide
  have hcollecting : Rule.compile collecting =
      .prohibition ⟨some "collect", some "oak"⟩ collecting := by
    decide
  have hkept : ∀ rules, ∀ rule ∈ rules,
      scripted.Keeps {} 2 (start rules) [] (Rule.compile rule) :=
    fun rules rule hrule => scripted_keeps hrule 2
  refine ⟨?_, ?_, ?_⟩
  · have hturn : scripted.turn (start [mining]) ∈
        (scripted.course {} 2 (start [mining]) []).turns :=
      List.mem_of_getElem? (course_first_turn scripted rfl 1 (start [mining]))
    have hcall : .mineBlock "oak_log" ∈ Event.calls (scripted.turn (start [mining])).events := by
      decide +kernel
    have hmine := course_mining hmining nofun (hkept [mining] mining (.head _))
    exact ⟨_, hturn, hcall, hmine.1 _ hturn "oak_log" hcall (by decide)⟩
  · decide +kernel
  · have hmine := course_mining hmining nofun (hkept [mining, collecting] mining (.head _))
    exact hmine.2 collecting hcollecting (hkept [mining, collecting] collecting (.tail _ (.head _)))

/-- A prohibition of mining alone does not keep its target from being broken. -/
theorem oak_broken_under_prohibition :
    let start := scriptedStart { blocks := .ofList [(⟨2, 64, 0⟩, "oak_log")] }
      ["ACTION: collect oak_log"] ["You must not mine oak"]
    Rule.compile "You must not mine oak" =
        .prohibition ⟨some "mine", some "oak"⟩ "You must not mine oak" ∧
      scripted.Keeps {} 1 start [] (Rule.compile "You must not mine oak") ∧
      ¬ ∀ name, .mineBlock name ∈ Event.calls (scripted.course {} 1 start []).trace →
        Scope.names ⟨some "mine", some "oak"⟩ name = false := by
  intro start
  refine ⟨by decide, scripted_keeps (.head _) 1, ?_⟩
  intro hnever
  have hcall : .mineBlock "oak_log" ∈ Event.calls (scripted.course {} 1 start []).trace := by
    decide +kernel
  have hnot : Scope.names ⟨some "mine", some "oak"⟩ "oak_log" = false := hnever "oak_log" hcall
  exact absurd hnot (by decide)

end Collected

end Rulebound.Cycle.Agent
