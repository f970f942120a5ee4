import Rulebound.Outcome

/-!
# Acts that do all or nothing

An act that answers whether it succeeded either succeeds with everything done, or leaves its state
as it was, also where a fault ends it. Such a statement is put together along the act: looking and
finding out come first, and once the state is changed nothing may fail any more. In the same way
it is put together that an act meets no fault at all.
-/

namespace Rulebound.Act

variable {σ α : Type} {state : σ} {done : σ → Prop}

/-- In a state, an act succeeds and leads to what it is to do, or it does not succeed and leaves
the state as it is. -/
def AllOrNothing (act : Act σ Bool) (state : σ) (done : σ → Prop) : Prop :=
  ((act state).result = .ok true ∧ done (act state).state) ∨
    ((act state).result ≠ .ok true ∧ (act state).state = state)

theorem AllOrNothing.state_eq {act : Act σ Bool} (h : act.AllOrNothing state done)
    (hfailed : (act state).result ≠ .ok true) : (act state).state = state := by
  rcases h with ⟨hok, -⟩ | ⟨-, hsame⟩
  · exact absurd hok hfailed
  · exact hsame

theorem AllOrNothing.done_of_ok {act : Act σ Bool} (h : act.AllOrNothing state done)
    (hok : (act state).result = .ok true) : done (act state).state := by
  rcases h with ⟨-, hdone⟩ | ⟨hfailed, -⟩
  · exact hdone
  · exact absurd hok hfailed

theorem AllOrNothing.mono {act : Act σ Bool} {more : σ → Prop} (h : act.AllOrNothing state done)
    (himp : ∀ after, done after → more after) : act.AllOrNothing state more := by
  rcases h with ⟨hok, hdone⟩ | hsame
  · exact .inl ⟨hok, himp _ hdone⟩
  · exact .inr hsame

theorem allOrNothing_refuse (why : String) : (refuse why).AllOrNothing state done :=
  .inr ⟨nofun, rfl⟩

theorem allOrNothing_of_sure {act : Act σ Bool} (hok : (act state).result = .ok true)
    (hdone : done (act state).state) : act.AllOrNothing state done :=
  .inl ⟨hok, hdone⟩

/-! ## One act after another -/

theorem bind_eq (first : Act σ α) (next : α → Act σ Bool) : (first >>= next) = andThen first next :=
  rfl

theorem allOrNothing_look {next : σ → Act σ Bool} (h : (next state).AllOrNothing state done) :
    (look >>= next).AllOrNothing state done :=
  h

theorem allOrNothing_find {answer : σ → Except Fault α} {next : α → Act σ Bool}
    (h : ∀ value, answer state = .ok value → (next value).AllOrNothing state done) :
    (find answer >>= next).AllOrNothing state done := by
  cases hanswer : answer state with
  | error fault =>
      refine .inr ⟨?_, ?_⟩
      · simp [bind_eq, andThen, find, hanswer]
      · simp [bind_eq, andThen, find, hanswer]
  | ok value =>
      have hnext := h value hanswer
      unfold AllOrNothing at hnext ⊢
      simpa [bind_eq, andThen, find, hanswer] using hnext

/-! ## When an act succeeds -/

theorem result_look {next : σ → Act σ Bool} :
    ((look >>= next) state).result = (next state state).result :=
  rfl

theorem result_find_eq_ok {answer : σ → Except Fault α} {next : α → Act σ Bool} :
    ((find answer >>= next) state).result = .ok true ↔
      ∃ value, answer state = .ok value ∧ (next value state).result = .ok true := by
  cases hanswer : answer state with
  | error fault => simp [bind_eq, andThen, find, hanswer]
  | ok value => simp [bind_eq, andThen, find, hanswer]

/-! ## When an act meets no fault -/

/-- In a state, an act comes to an answer, and what it notes on the way is no error. -/
structure Answers (act : Act σ α) (state : σ) : Prop where
  answered : ∃ value, (act state).result = .ok value
  calm : ∀ line ∈ (act state).logs, line.level = .info

theorem answers_pure (value : α) : (pure value : Act σ α).Answers state :=
  ⟨⟨value, rfl⟩, nofun⟩

theorem Answers.bind {β : Type} {first : Act σ α} {next : α → Act σ β}
    (hfirst : first.Answers state)
    (hnext : ∀ value, (first state).result = .ok value → (next value).Answers (first state).state) :
    (first >>= next).Answers state := by
  obtain ⟨value, hvalue⟩ := hfirst.answered
  obtain ⟨hanswered, hcalm⟩ := hnext value hvalue
  have heq : (first >>= next) state = { next value (first state).state with
      logs := (first state).logs ++ (next value (first state).state).logs } := by
    change andThen first next state = _
    simp only [andThen, hvalue]
  refine ⟨heq ▸ hanswered, fun line hline => ?_⟩
  rw [heq] at hline
  rcases List.mem_append.1 hline with hbefore | hafter
  · exact hfirst.calm line hbefore
  · exact hcalm line hafter

theorem answers_look {β : Type} {next : σ → Act σ β} (h : (next state).Answers state) :
    (look >>= next).Answers state :=
  Answers.bind ⟨⟨state, rfl⟩, nofun⟩ fun _ hsame => Except.ok.inj hsame ▸ h

theorem answers_change {β : Type} {f : σ → σ} {next : Unit → Act σ β}
    (h : (next ()).Answers (f state)) : (change f >>= next).Answers state :=
  Answers.bind ⟨⟨(), rfl⟩, nofun⟩ fun _ _ => h

theorem answers_find {β : Type} {answer : σ → Except Fault α} {next : α → Act σ β}
    (hfound : ∃ value, answer state = .ok value)
    (h : ∀ value, answer state = .ok value → (next value).Answers state) :
    (find answer >>= next).Answers state :=
  Answers.bind ⟨hfound, nofun⟩ h

theorem answers_note (text : String) : (note text : Act σ Unit).Answers state :=
  ⟨⟨(), rfl⟩, fun line hline => by rw [List.mem_singleton.1 hline]; rfl⟩

theorem answers_refuse (why : String) : (refuse why : Act σ Bool).Answers state :=
  (answers_note why).bind fun _ _ => answers_pure false

theorem answers_succeed (what : String) : (succeed what : Act σ Bool).Answers state :=
  (answers_note what).bind fun _ _ => answers_pure true

end Rulebound.Act
