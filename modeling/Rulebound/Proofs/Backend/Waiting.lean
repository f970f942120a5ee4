import Rulebound.Json.Printer
import Rulebound.Proofs.Backend.Attempt

/-!
# Waiting for a server

A wait is made of attempts, each after a look at whether it should stop, and a delay after each
attempt that fails. It gives up exactly if it has no attempt left and saw at no look that it should
stop.
-/

namespace Rulebound.Server

def gaveUp : Fault :=
  unavailable "Ollama not available after maximum retries"

/-- How a wait ends: with an attempt that finds the server ready, with a look before an attempt, or
with the delay after the last attempt. -/
inductive Finish where
  | ready (attempt : Attempt)
  | halted
  | ended

/-- A wait: the attempts that failed, and how it ends. -/
structure Wait where
  failed : List Attempt
  finish : Finish

/-- A failed attempt with the look before it and the delay after it. -/
def Attempt.round (server : Server) (attempt : Attempt) : List Traffic :=
  .look :: (attempt.traffic server ++ [.pause server.retryDelay, .look])

namespace Finish

def attempts : Finish → List Attempt
  | ready attempt => [attempt]
  | halted => []
  | ended => []

def traffic (server : Server) : Finish → List Traffic
  | ready attempt => .look :: attempt.traffic server
  | halted => [.look]
  | ended => []

end Finish

namespace Wait

def attempts (wait : Wait) : List Attempt :=
  wait.failed ++ wait.finish.attempts

/-- Everything that goes over the link in a wait, in order. -/
def traffic (server : Server) (wait : Wait) : List Traffic :=
  wait.failed.flatMap (Attempt.round server) ++ wait.finish.traffic server

/-- What is so of a wait of at most so many attempts and what came of it. -/
structure Explains [Json.Nesting] (server : Server) (left : Nat) (link : Link)
    (outcome : Outcome Link Unit) (wait : Wait) : Prop where
  attempts_le : wait.attempts.length ≤ left
  made : ∀ attempt ∈ wait.attempts, attempt.IsMade server
  failed : ∀ attempt ∈ wait.failed, ¬ attempt.Ready server
  ready : ∀ attempt ∈ wait.finish.attempts, attempt.Ready server
  replies : wait.attempts.flatMap Attempt.replies =
    link.answers (wait.attempts.flatMap Attempt.replies).length
  state : outcome.state = link.after (wait.traffic server)
  heeds : link.Heeds (wait.traffic server)
  /-- It gives up exactly if every attempt failed and no look saw that it should stop. -/
  raises : outcome.result = .error gaveUp ↔
    wait.failed.length = left ∧ link.SeesNoStop (wait.traffic server)
  returns : outcome.result = .ok () ∨ outcome.result = .error gaveUp
  /-- Without having seen that it should stop, it comes back only from a server that is ready. -/
  found : outcome.result = .ok () → link.SeesNoStop (wait.traffic server) →
    ∃ attempt, wait.attempts.getLast? = some attempt ∧ attempt.Ready server

end Wait

variable {server : Server} {link : Link}

/-! ## One attempt of a wait -/

theorem pause_after_attempt (attempt : Attempt)
    (hdelay : link.delayFault? server.retryDelay = none) :
    (link.after (.look :: attempt.traffic server)).pause server.retryDelay =
      .ok (link.after (attempt.round server), (link.after
        (.look :: attempt.traffic server ++ [.pause server.retryDelay])).stopped) := by
  have hafter :
      (link.after (.look :: attempt.traffic server)).delayFault? server.retryDelay = none :=
    hdelay
  rw [Link.pause_eq hafter]
  simp [Attempt.round]

section step

variable [Json.Nesting] (left number : Nat)

theorem awaitFrom_halted (hstopped : link.stopped = true) :
    server.awaitFrom (left + 1) number link = ⟨link.after [.look], .ok (), [stoppedLog]⟩ := by
  simp [awaitFrom, Link.look_eq, hstopped]

theorem awaitFrom_ready (hstopped : link.stopped = false)
    (hready : (server.check (link.after [.look])).result = .ok true) :
    (server.awaitFrom (left + 1) number link).state = (server.check (link.after [.look])).state ∧
      (server.awaitFrom (left + 1) number link).result = .ok () := by
  simp [awaitFrom, Link.look_eq, hstopped, hready]

section failed

variable {attempt : Attempt} (hstopped : link.stopped = false)
  (hfailed : (server.check (link.after [.look])).result = .ok false)
  (hchecked : (server.check (link.after [.look])).state =
    link.after (.look :: attempt.traffic server))
  (hdelay : link.delayFault? server.retryDelay = none)
include hstopped hfailed hchecked hdelay

theorem awaitFrom_ended (hlast : (link.after
      (.look :: attempt.traffic server ++ [.pause server.retryDelay])).stopped = true) :
    (server.awaitFrom (left + 1) number link).state = link.after (attempt.round server) ∧
      (server.awaitFrom (left + 1) number link).result = .ok () := by
  have hpaused := pause_after_attempt attempt hdelay
  rw [hlast] at hpaused
  simp [awaitFrom, Link.look_eq, hstopped, hfailed, hchecked, hpaused]

theorem awaitFrom_again (hlast : (link.after
      (.look :: attempt.traffic server ++ [.pause server.retryDelay])).stopped = false) :
    (server.awaitFrom (left + 1) number link).state =
        (server.awaitFrom left (number + 1) (link.after (attempt.round server))).state ∧
      (server.awaitFrom (left + 1) number link).result =
        (server.awaitFrom left (number + 1) (link.after (attempt.round server))).result := by
  have hpaused := pause_after_attempt attempt hdelay
  rw [hlast] at hpaused
  simp [awaitFrom, Link.look_eq, hstopped, hfailed, hchecked, hpaused]

end failed

end step

/-! ## Looks and requests of an attempt -/

namespace Attempt

theorem seesNoStop_traffic (link : Link) (attempt : Attempt) :
    link.SeesNoStop (attempt.traffic server) := by
  apply Link.seesNoStop_of_not_mem
  cases hreport : attempt.report? with
  | none => simp [traffic, hreport]
  | some report => simp [traffic, hreport]

theorem requests_traffic (attempt : Attempt) :
    ((attempt.traffic server).filterMap Link.request?).length = attempt.replies.length := by
  cases hreport : attempt.report? with
  | none => simp [traffic, replies, hreport]
  | some report => simp [traffic, replies, hreport]

theorem requests_round (attempt : Attempt) :
    ((attempt.round server).filterMap Link.request?).length = attempt.replies.length := by
  have hsame : (attempt.round server).filterMap Link.request? =
      (attempt.traffic server).filterMap Link.request? := by
    simp [Attempt.round, List.filterMap_cons]
  rw [hsame, requests_traffic]

theorem seesNoStop_round (attempt : Attempt) :
    link.SeesNoStop (attempt.round server) ↔ link.stopped = false ∧
      (link.after (.look :: attempt.traffic server ++ [.pause server.retryDelay])).stopped =
        false := by
  simp [Attempt.round, Link.seesNoStop_cons, Link.seesNoStop_append, Link.seesNoStop_nil,
    seesNoStop_traffic]

end Attempt

/-! ## All attempts of a wait -/

namespace Wait

variable {left : Nat} {outcome : Outcome Link Unit} {attempt : Attempt} {wait : Wait}

theorem not_error_of_ok (h : outcome.result = .ok ()) : outcome.result ≠ .error gaveUp := by
  simp [h]

variable [Json.Nesting]

/-- What is noted in a wait has no part in its explanation. -/
theorem Explains.of_eq {other : Outcome Link Unit} (h : Explains server left link outcome wait)
    (hstate : other.state = outcome.state) (hresult : other.result = outcome.result) :
    Explains server left link other wait := by
  obtain ⟨state, result, logs⟩ := other
  subst hstate hresult
  exact { h with }

/-- A stop that is seen before an attempt ends the wait. -/
theorem explains_halted (hstopped : link.stopped = true)
    (hstate : outcome.state = link.after [.look]) (hresult : outcome.result = .ok ()) :
    Explains server (left + 1) link outcome ⟨[], .halted⟩ := by
  have hsees : ¬ link.SeesNoStop [.look] := fun hnone =>
    Bool.noConfusion (((Link.seesNoStop_cons.1 hnone).1 rfl).symm.trans hstopped)
  exact {
    attempts_le := Nat.zero_le _
    made := List.forall_mem_nil _
    failed := List.forall_mem_nil _
    ready := List.forall_mem_nil _
    replies := rfl
    state := hstate
    heeds := Link.heeds_concat Link.seesNoStop_nil
    raises := iff_of_false (not_error_of_ok hresult) fun h => hsees h.2
    returns := .inl hresult
    found := fun _ hnone => absurd hnone hsees }

theorem explains_ready (hstopped : link.stopped = false) {checked : Outcome Link Bool}
    (haccounts : attempt.Accounts server (link.after [.look]) checked)
    (hready : attempt.Ready server)
    (hstate : outcome.state = checked.state) (hresult : outcome.result = .ok ()) :
    Explains server (left + 1) link outcome ⟨[], .ready attempt⟩ where
  attempts_le := Nat.succ_le_succ (Nat.zero_le _)
  made := List.forall_mem_singleton.2 haccounts.made
  failed := List.forall_mem_nil _
  ready := List.forall_mem_singleton.2 hready
  replies := by
    simpa [attempts, Finish.attempts, Link.answers_after_look] using haccounts.replies
  state := by
    simpa [traffic, Finish.traffic] using hstate.trans haccounts.state
  heeds := by
    apply Link.heeds_of_seesNoStop
    simp [traffic, Finish.traffic, Link.seesNoStop_cons, hstopped, Attempt.seesNoStop_traffic]
  raises := iff_of_false (not_error_of_ok hresult) fun h => nomatch h.1
  returns := .inl hresult
  found := fun _ _ => ⟨attempt, rfl, hready⟩

/-- A stop that is seen at the end of a delay ends the wait. -/
theorem explains_ended (hstopped : link.stopped = false) {checked : Outcome Link Bool}
    (haccounts : attempt.Accounts server (link.after [.look]) checked)
    (hfailed : ¬ attempt.Ready server)
    (hlast : (link.after
      (.look :: attempt.traffic server ++ [.pause server.retryDelay])).stopped = true)
    (hstate : outcome.state = link.after (attempt.round server))
    (hresult : outcome.result = .ok ()) :
    Explains server (left + 1) link outcome ⟨[attempt], .ended⟩ := by
  have htraffic : traffic server ⟨[attempt], .ended⟩ = attempt.round server := by
    simp [traffic, Finish.traffic]
  have hsees : ¬ link.SeesNoStop (attempt.round server) := by
    rw [Attempt.seesNoStop_round, hlast]
    exact nofun
  exact {
    attempts_le := Nat.succ_le_succ (Nat.zero_le _)
    made := List.forall_mem_singleton.2 haccounts.made
    failed := List.forall_mem_singleton.2 hfailed
    ready := List.forall_mem_nil _
    replies := by
      simpa [attempts, Finish.attempts, Link.answers_after_look] using haccounts.replies
    state := htraffic ▸ hstate
    heeds := by
      have hbefore : link.SeesNoStop
          (.look :: (attempt.traffic server ++ [.pause server.retryDelay])) := by
        simp [Link.seesNoStop_cons, Link.seesNoStop_append, Link.seesNoStop_nil, hstopped,
          Attempt.seesNoStop_traffic]
      simpa [htraffic, Attempt.round] using Link.heeds_concat hbefore
    raises := iff_of_false (not_error_of_ok hresult) fun h => hsees (htraffic ▸ h.2)
    returns := .inl hresult
    found := fun _ hnone => absurd (htraffic ▸ hnone) hsees }

theorem Explains.cons {checked : Outcome Link Bool}
    (hround : link.SeesNoStop (attempt.round server))
    (haccounts : attempt.Accounts server (link.after [.look]) checked)
    (hfailed : ¬ attempt.Ready server)
    (hrest : Explains server left (link.after (attempt.round server)) outcome wait) :
    Explains server (left + 1) link outcome ⟨attempt :: wait.failed, wait.finish⟩ := by
  have hattempts : attempts ⟨attempt :: wait.failed, wait.finish⟩ = attempt :: wait.attempts := rfl
  have htraffic : traffic server ⟨attempt :: wait.failed, wait.finish⟩ =
      attempt.round server ++ wait.traffic server := by
    simp [traffic]
  have hsees : link.SeesNoStop (attempt.round server ++ wait.traffic server) ↔
      (link.after (attempt.round server)).SeesNoStop (wait.traffic server) := by
    simp [Link.seesNoStop_append, hround]
  exact {
    attempts_le := by simpa [hattempts] using hrest.attempts_le
    made := List.forall_mem_cons.2 ⟨haccounts.made, hrest.made⟩
    failed := List.forall_mem_cons.2 ⟨hfailed, hrest.failed⟩
    ready := hrest.ready
    replies := by
      have hfirst := haccounts.replies
      rw [Link.answers_after_look] at hfirst
      rw [hattempts, List.flatMap_cons, List.length_append,
        Link.answers_append (Attempt.requests_round attempt), ← hfirst, ← hrest.replies]
    state := by simpa [htraffic] using hrest.state
    heeds := htraffic ▸ hrest.heeds.append hround
    raises := by
      rw [hrest.raises, htraffic, hsees, List.length_cons, Nat.add_right_cancel_iff]
    returns := hrest.returns
    found := by
      intro hresult hnone
      obtain ⟨last, hlast, hready⟩ := hrest.found hresult (hsees.1 (htraffic ▸ hnone))
      exact ⟨last, by simp [hattempts, List.getLast?_cons, hlast], hready⟩ }

/-- Every wait is explained by attempts. -/
theorem exists_explains (left number : Nat) (h : server.Relies link) :
    ∃ wait, Explains server left link (server.awaitFrom left number link) wait := by
  -- A round that fails is put in front of the wait that follows it, over the link it leaves.
  induction left generalizing number link with
  | zero =>
      exact ⟨⟨[], .ended⟩, {
        attempts_le := Nat.le_refl _
        made := List.forall_mem_nil _
        failed := List.forall_mem_nil _
        ready := List.forall_mem_nil _
        replies := rfl
        state := Link.after_nil.symm
        heeds := Link.heeds_of_seesNoStop Link.seesNoStop_nil
        raises := iff_of_true rfl ⟨rfl, Link.seesNoStop_nil⟩
        returns := .inr rfl
        found := nofun }⟩
  | succ left ih =>
      cases hstopped : link.stopped with
      | true =>
          rw [awaitFrom_halted left number hstopped]
          exact ⟨_, explains_halted hstopped rfl rfl⟩
      | false =>
          obtain ⟨attempt, haccounts⟩ := check_accounts (h.after [.look])
          obtain ⟨ready, hresult, hready⟩ := haccounts.result
          cases ready with
          | true =>
              obtain ⟨hstate, hok⟩ := awaitFrom_ready left number hstopped hresult
              exact ⟨_, explains_ready hstopped haccounts (hready.1 rfl) hstate hok⟩
          | false =>
              have hfailed : ¬ attempt.Ready server := fun hfound =>
                Bool.noConfusion (hready.2 hfound)
              have hchecked : (server.check (link.after [.look])).state =
                  link.after (.look :: attempt.traffic server) := by
                simpa using haccounts.state
              cases hlast : (link.after
                  (.look :: attempt.traffic server ++ [.pause server.retryDelay])).stopped with
              | true =>
                  obtain ⟨hstate, hok⟩ :=
                    awaitFrom_ended left number hstopped hresult hchecked h.delay hlast
                  exact ⟨_, explains_ended hstopped haccounts hfailed hlast hstate hok⟩
              | false =>
                  obtain ⟨hstate, hsame⟩ :=
                    awaitFrom_again left number hstopped hresult hchecked h.delay hlast
                  have hround : link.SeesNoStop (attempt.round server) :=
                    (Attempt.seesNoStop_round attempt).2 ⟨hstopped, hlast⟩
                  obtain ⟨wait, hwait⟩ := ih (number + 1) (h.after (attempt.round server))
                  exact ⟨_, (hwait.of_eq hstate hsame).cons hround haccounts hfailed⟩

end Wait

/-- Every wait is made of at most so many attempts as there are retries, and each of them asks for
the list of models once. -/
theorem await_explained [Json.Nesting] (h : server.Relies link) :
    ∃ wait, Wait.Explains server server.maxRetries.toNat link (server.await link) wait :=
  Wait.exists_explains _ _ h

/-! ## A server that wakes up -/

def patient : Server where
  options := { model := "llama3" }
  maxRetries := 3

def listing (names : List String) : HttpReply :=
  .answer 200 (Text.encode (Json.print (.object
    [("models", .array (names.map fun name => .object [("name", .string name)]))])))

/-- What comes back from a server that is down at first, then lists no model and fails to fetch
one, and then lists it. -/
def wakingReply : Nat → HttpReply
  | 0 => .failed ⟨.http, some "Connection refused", ""⟩
  | 1 => listing []
  | 2 => .answer 503 []
  | _ => listing ["llama3"]

def waking : Link where
  replies := wakingReply

section Patient

attribute [local instance] Json.Nesting.usual

theorem patient_relies : patient.Relies waking where
  failed place fault hreply := by
    match place with
    | 0 =>
        injection hreply with hfault
        rw [← hfault]
    | 1 | 2 | _ + 3 => exact nomatch hreply
  readable place := by
    match place with
    | 0 | 1 | 2 => decide +kernel
    | _ + 3 =>
        have hlisted : ∀ text ∈ textsOf (listing ["llama3"]), Json.isReadable text = true := by
          decide +kernel
        exact hlisted
  delay := rfl

/-- Such a server is found ready at the third attempt. -/
theorem patient_explained :
    patient.Relies waking ∧
      (patient.await waking).state.requests.map (·.method) = ["GET", "GET", "POST", "GET"] ∧
      ∃ wait, Wait.Explains patient 3 waking (patient.await waking) wait :=
  ⟨patient_relies, by decide +kernel, await_explained patient_relies⟩

end Patient

end Rulebound.Server
