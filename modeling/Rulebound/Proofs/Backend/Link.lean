import Rulebound.Proofs.Backend.Server

/-!
# What goes over a link

A link after more traffic is the same link with a longer past. Which looks among that traffic see
that the operator has asked to stop depends on what went over the link before each of them.
-/

namespace Rulebound.Link

/-- A stop that is asked for at a moment is asked for ever after. -/
def StopLasts (link : Link) : Prop :=
  ∀ before after, link.isStopped before = true → link.isStopped (before ++ after) = true

def after (link : Link) (traffic : List Traffic) : Link :=
  { link with past := link.past ++ traffic }

def answers (link : Link) (count : Nat) : List HttpReply :=
  (List.range count).map fun place => link.replies (link.requests.length + place)

/-- No look among the traffic that follows sees that the operator has asked to stop. -/
def SeesNoStop (link : Link) (traffic : List Traffic) : Prop :=
  ∀ before after, traffic = before ++ .look :: after → link.isStopped (link.past ++ before) = false

/-- Nothing follows a look that sees that the operator has asked to stop. -/
def Heeds (link : Link) (traffic : List Traffic) : Prop :=
  ∀ before after, traffic = before ++ .look :: after →
    link.isStopped (link.past ++ before) = true → after = []

variable {link : Link} {traffic first rest : List Traffic} {item : Traffic}

@[simp] theorem request?_request (sent : HttpRequest) : request? (.request sent) = some sent := rfl

@[simp] theorem request?_look : request? .look = none := rfl

@[simp] theorem request?_pause (seconds : Binary64) : request? (.pause seconds) = none := rfl

/-! ## Longer pasts -/

@[simp] theorem past_after : (link.after traffic).past = link.past ++ traffic := rfl

@[simp] theorem replies_after : (link.after traffic).replies = link.replies := rfl

@[simp] theorem isStopped_after : (link.after traffic).isStopped = link.isStopped := rfl

@[simp] theorem after_nil : link.after [] = link := by
  simp [after]

@[simp] theorem after_after : (link.after first).after rest = link.after (first ++ rest) := by
  simp [after]

@[simp] theorem requests_after :
    (link.after traffic).requests = link.requests ++ traffic.filterMap request? := by
  simp [requests]

theorem look_eq : link.look = (link.after [.look], link.stopped) := rfl

theorem pause_eq {seconds : Binary64} (h : link.delayFault? seconds = none) :
    link.pause seconds =
      .ok (link.after [.pause seconds, .look], (link.after [.pause seconds]).stopped) := by
  have hwaited : (if link.stopped then none else link.delayFault? seconds) = none := by
    simp [h]
  unfold pause
  rw [hwaited]
  simp [look, after, stopped]

theorem answers_append {count : Nat} (hfirst : (first.filterMap request?).length = count)
    (more : Nat) :
    link.answers (count + more) = link.answers count ++ (link.after first).answers more := by
  simp [answers, List.range_add, Function.comp_def, hfirst, Nat.add_assoc]

theorem answers_after_look {count : Nat} :
    (link.after [.look]).answers count = link.answers count := by
  simp [answers, List.filterMap_cons]

/-! ## Looks -/

theorem seesNoStop_nil : link.SeesNoStop [] := by
  simp [SeesNoStop]

theorem seesNoStop_cons :
    link.SeesNoStop (item :: rest) ↔
      (item = .look → link.stopped = false) ∧ (link.after [item]).SeesNoStop rest := by
  constructor
  · intro h
    constructor
    · rintro rfl
      simpa [stopped] using h [] rest rfl
    · intro before later hrest
      simpa using h (item :: before) later (by rw [hrest, List.cons_append])
  · rintro ⟨hitem, hrest⟩ before later hsplit
    cases before with
    | nil =>
        obtain ⟨rfl, -⟩ := List.cons.inj hsplit
        simpa [stopped] using hitem rfl
    | cons other before =>
        obtain ⟨rfl, hlater⟩ := List.cons.inj hsplit
        simpa using hrest before later hlater

theorem seesNoStop_append :
    link.SeesNoStop (first ++ rest) ↔
      link.SeesNoStop first ∧ (link.after first).SeesNoStop rest := by
  induction first generalizing link with
  | nil => simp [seesNoStop_nil]
  | cons item first ih => simp [seesNoStop_cons, ih, and_assoc]

/-- Nothing that begins with a stop is without one. -/
theorem StopLasts.not_prefix {before earlier : List Traffic} (h : link.StopLasts)
    (hstopped : link.isStopped (link.past ++ before) = true)
    (hnone : link.isStopped (link.past ++ earlier) = false) : ¬ before <+: earlier := by
  rintro ⟨between, rfl⟩
  have hlater := h _ between hstopped
  rw [List.append_assoc, hnone] at hlater
  contradiction

theorem seesNoStop_of_not_mem (h : .look ∉ traffic) : link.SeesNoStop traffic := by
  intro before later hsplit
  exact absurd (by simp [hsplit]) h

theorem heeds_of_seesNoStop (h : link.SeesNoStop traffic) : link.Heeds traffic := by
  intro before later hsplit hstopped
  exact nomatch (h before later hsplit).symm.trans hstopped

/-- A look at the end of traffic that saw no stop may see one: nothing follows it. -/
theorem heeds_concat (h : link.SeesNoStop traffic) : link.Heeds (traffic ++ [.look]) := by
  intro before later hsplit hstopped
  rcases List.append_eq_append_iff.1 hsplit with ⟨more, -, hlast⟩ | ⟨more, htraffic, hlast⟩
  · cases more with
    | nil => simpa using hlast
    | cons item more => simp at hlast
  · cases more with
    | nil => simpa using hlast
    | cons item more =>
        obtain ⟨rfl, -⟩ := List.cons.inj hlast
        exact nomatch (h before more htraffic).symm.trans hstopped

theorem Heeds.append (hfirst : link.SeesNoStop first) (hrest : (link.after first).Heeds rest) :
    link.Heeds (first ++ rest) := by
  induction first generalizing link with
  | nil => simpa using hrest
  | cons item first ih =>
      obtain ⟨hitem, hlater⟩ := seesNoStop_cons.1 hfirst
      have hheeds := ih hlater (by simpa using hrest)
      intro before later hsplit hstopped
      cases before with
      | nil =>
          obtain ⟨rfl, -⟩ := List.cons.inj hsplit
          have hnone : link.isStopped link.past = false := hitem rfl
          rw [List.append_nil, hnone] at hstopped
          contradiction
      | cons other before =>
          obtain ⟨rfl, htail⟩ := List.cons.inj hsplit
          exact hheeds before later htail (by simpa using hstopped)

end Rulebound.Link
