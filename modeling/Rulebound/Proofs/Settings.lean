import Rulebound.Proofs.Checked
import Rulebound.Proofs.Number.Order
import Rulebound.Proofs.Number.Reading
import Rulebound.Session

/-!
# Which intervals get through

An interval comes from what the operator asks for, or else from the environment. Neither lets a
negative one through, nor what is no number. Only the environment's is looked at whether it is
finite: an infinite one that is asked for gets through, and like every other one of about three
hundred years or more it cannot be waited for.
-/

namespace Rulebound

namespace Settings

variable {request : Request} {environment : Environment} {settings : Settings} {x : Binary64}

/-- An interval can be used: it is finite and not negative. -/
def IsUsable (x : Binary64) : Prop :=
  x.isFinite = true ∧ isInterval x = true

/-- What is checked of an interval that is asked for lets one through that cannot be used. -/
theorem isInterval_iff : isInterval x = true ↔ IsUsable x ∨ x = .infinite false := by
  obtain ⟨fits, hzero⟩ : ∃ fits, (0 : Binary64) = .finite false 0 fits :=
    ⟨by decide +kernel, by decide +kernel⟩
  unfold IsUsable isInterval
  rw [hzero]
  cases x with
  | nan => simp [Binary64.le, Binary64.isFinite]
  | infinite negative => cases negative <;> simp [Binary64.le, Binary64.isFinite]
  | finite negative units fits => simp [Binary64.isFinite]

theorem decodeInterval_float {y : Binary64} :
    decodeInterval (.float x) = .good y ↔ x = y ∧ isInterval x = true := by
  have hnumber : Decode.number (.float x) = .good x := rfl
  rw [decodeInterval, Decode.atLeast_eq_good, hnumber, Checked.good.injEq]
  exact and_congr_right fun hsame => hsame ▸ Iff.rfl

/-! ## The environment -/

theorem isUsable_default : IsUsable 15 := by
  unfold IsUsable
  decide +kernel

theorem isUsable_of_readInterval {text : Option String} (h : (readInterval text).1 = some x) :
    IsUsable x := by
  unfold readInterval at h
  split at h
  · exact nomatch h
  · dsimp only at h
    split at h
    · exact nomatch h
    · split at h
      · rename_i hchecked
        rw [Bool.and_eq_true] at hchecked
        exact Option.some.inj h ▸ hchecked
      · exact nomatch h

/-- The environment lets an interval through that can be used, and for every such interval there is
a text that it is read from. -/
theorem readInterval_eq_some : (∃ text, readInterval (some text) = (some x, [])) ↔ IsUsable x := by
  constructor
  · rintro ⟨text, h⟩
    exact isUsable_of_readInterval (congrArg Prod.fst h)
  · intro h
    obtain ⟨text, htext⟩ := Binary64.exists_read? h.1
    have hne : text ≠ "" := by
      rintro rfl
      have hempty : Binary64.read? "" = none := by decide
      exact nomatch hempty.symm.trans htext
    have hpresent : present? (some text) = some text := by simp [present?, hne]
    refine ⟨text, ?_⟩
    unfold readInterval
    rw [hpresent]
    simp only [htext, h.1, h.2, Bool.and_self, if_true]

/-- The interval that is taken if none is asked for. -/
def inherited (environment : Environment) : Binary64 :=
  (readInterval (environment "CRAFTMIND_DECISION_INTERVAL")).1.getD 15

theorem isUsable_inherited (environment : Environment) : IsUsable (inherited environment) := by
  unfold inherited
  cases hread : (readInterval (environment "CRAFTMIND_DECISION_INTERVAL")).1 with
  | none => exact isUsable_default
  | some x => exact isUsable_of_readInterval hread

/-! ## Putting settings together -/

def Request.asking (request : Request) (asked? : Option Binary64) : Request :=
  { request with interval := asked?.map .float }

def HasTurns (request : Request) : Prop :=
  ∃ turns, Decode.optional decodeTurns (request.turns.getD .null) = .good turns

variable {asked? : Option Binary64}

/-- What is checked as an interval is what is asked for, or what is there if nothing is. -/
theorem checked_asking (request : Request) (environment : Environment)
    (asked? : Option Binary64) :
    (request.asking asked?).interval.getD
      (.float ((environmentInterval (request.asking asked?) environment).1.getD 15)) =
      .float (asked?.getD (inherited environment)) := by
  unfold Request.asking environmentInterval inherited
  cases asked? with
  | none => simp only [Option.map_none, Option.isSome_none, Bool.false_eq_true, if_false,
      Option.getD_none]
  | some x => simp only [Option.map_some, Option.getD_some]

theorem interval_of_resolve (h : resolve (request.asking asked?) environment = .good settings) :
    settings.interval = asked?.getD (inherited environment) ∧
      isInterval settings.interval = true := by
  unfold resolve at h
  simp only [Checked.seq_eq_good, Checked.map_eq_good, Checked.under_eq_good, checked_asking,
    decodeInterval_float] at h
  obtain ⟨_, turns, ⟨interval, ⟨hsame, hchecked⟩, rfl⟩, -, rfl⟩ := h
  exact ⟨hsame.symm, hsame ▸ hchecked⟩

/-- With turns that are good, settings are put together exactly if the interval passes. -/
theorem exists_resolve (hturns : HasTurns request) :
    (∃ settings, resolve (request.asking asked?) environment = .good settings) ↔
      isInterval (asked?.getD (inherited environment)) = true := by
  constructor
  · rintro ⟨settings, hresolve⟩
    obtain ⟨hsame, hchecked⟩ := interval_of_resolve hresolve
    exact hsame ▸ hchecked
  · intro hchecked
    obtain ⟨turns, hturns⟩ := hturns
    unfold resolve
    simp only [Checked.seq_eq_good, Checked.map_eq_good, Checked.under_eq_good, checked_asking,
      decodeInterval_float]
    exact ⟨_, _, turns, ⟨_, ⟨rfl, hchecked⟩, rfl⟩, hturns, rfl⟩

/-! ## Delays -/

section Delay

variable {σ γ : Type}

/-- A delay can be waited for if its nanoseconds can be counted. -/
theorem delayFault?_eq_none (session : Session σ γ) (conditions : Cycle.Conditions)
    (h : isInterval session.settings.interval = true) :
    (session.underSettings conditions).delayFault? = none ↔
      session.settings.interval.lt Cycle.Conditions.longestDelay = true := by
  have hlongest : Cycle.Conditions.longestDelay.isNan = false := by decide +kernel
  have hnumber : session.settings.interval.isNan = false := (Binary64.isNan_of_le h).2
  rw [Binary64.lt_eq_not_le hnumber hlongest, Bool.not_eq_true']
  unfold Cycle.Conditions.delayFault? Session.underSettings
  dsimp only
  cases Cycle.Conditions.longestDelay.le session.settings.interval <;> simp

end Delay

/-! ## What gets through -/

/-- The interval of a run is the one that is asked for, or else the one that is there. It can be
used, unless an infinite one is asked for, and it can be waited for if it is not too long. What is
asked for gets through exactly if the environment lets it through too or it is infinite. -/
theorem interval_gets_through {σ γ : Type} (request : Request) (environment : Environment)
    (asked? : Option Binary64) :
    (∀ settings, resolve (request.asking asked?) environment = .good settings →
      settings.interval = asked?.getD (inherited environment) ∧
      (IsUsable settings.interval ∨ asked? = some (.infinite false)) ∧
      ∀ (session : Session σ γ) (conditions : Cycle.Conditions), session.settings = settings →
        ((session.underSettings conditions).delayFault? = none ↔
          settings.interval.lt Cycle.Conditions.longestDelay = true)) ∧
    (HasTurns request →
      ((∃ settings, resolve (request.asking asked?) environment = .good settings) ↔
        ∀ x, asked? = some x →
          (∃ text, readInterval (some text) = (some x, [])) ∨ x = .infinite false)) ∧
    ∀ x, (∃ text, readInterval (some text) = (some x, [])) ↔ IsUsable x := by
  refine ⟨fun settings hresolve => ?_, fun hturns => ?_, fun x => readInterval_eq_some⟩
  · obtain ⟨hsame, hchecked⟩ := interval_of_resolve hresolve
    refine ⟨hsame, ?_, ?_⟩
    · rcases isInterval_iff.1 hchecked with husable | hinfinite
      · exact .inl husable
      · cases asked? with
        | none => exact .inl (hsame ▸ isUsable_inherited environment)
        | some x => exact .inr (congrArg some (hsame.symm.trans hinfinite))
    · rintro session conditions rfl
      exact delayFault?_eq_none session conditions hchecked
  · rw [exists_resolve hturns]
    cases asked? with
    | none =>
        have hchecked := (isUsable_inherited environment).2
        rw [Option.getD_none]
        exact ⟨fun _ x hx => absurd hx.symm (Option.some_ne_none x), fun _ => hchecked⟩
    | some x =>
        rw [Option.getD_some, isInterval_iff, ← readInterval_eq_some]
        exact ⟨fun h y hy => Option.some.inj hy ▸ h, fun h => h x rfl⟩

-- Ten thousand million seconds are more nanoseconds than 63 bits count.
example : IsUsable (.ofInt (10 ^ 10)) ∧
    (Binary64.ofInt (10 ^ 10)).lt Cycle.Conditions.longestDelay = false := by
  unfold IsUsable
  decide +kernel

/-- An infinite interval that is asked for gets through. -/
theorem infinite_interval_gets_through :
    ¬ ∀ (request : Request) (environment : Environment) (asked? : Option Binary64)
      (settings : Settings), resolve (request.asking asked?) environment = .good settings →
        settings.interval.isFinite = true := by
  intro h
  let asked? : Option Binary64 := some (.infinite false)
  let environment : Environment := fun _ => none
  have hpasses : isInterval (asked?.getD (inherited environment)) = true :=
    isInterval_iff.2 (.inr (Option.getD_some ..))
  have hturns : HasTurns {} := ⟨none, rfl⟩
  obtain ⟨settings, hresolve⟩ := (exists_resolve hturns).2 hpasses
  have hfinite := h {} environment asked? settings hresolve
  rw [(interval_of_resolve hresolve).1] at hfinite
  exact nomatch hfinite

end Settings

end Rulebound
