import Rulebound.Proofs.Backend.Waiting

/-!
# Stopping a wait

A stop that the operator asks for is seen at the next look, and that ends the wait. Until then a
request can follow only if the stop overtakes an attempt: if it is asked for between the look that
let the attempt through and the request for the list of models, or between that request and the
fetch it leads to.
-/

namespace Rulebound.Server

/-- A request that a look after some traffic let through: the one for the list of models, directly
after the look, or the one for the model, directly after that. -/
def LetThrough (server : Server) (earlier before : List Traffic) (sent : HttpRequest) : Prop :=
  (before = earlier ++ [.look] ∧ sent = server.get tagsPath) ∨
    (before = earlier ++ [.look, .request (server.get tagsPath)] ∧ sent = server.pullRequest)

/-- Every request was let through by a look. -/
def Admits (server : Server) (traffic : List Traffic) : Prop :=
  ∀ before sent later, traffic = before ++ .request sent :: later →
    ∃ earlier, server.LetThrough earlier before sent

/-- What comes of a stop that is asked for after some traffic, with the rest still to come. -/
structure StopsAt (server : Server) (link : Link) (result : Except Fault Unit)
    (before rest : List Traffic) : Prop where
  /-- The next look is the last thing that is done. -/
  ends : ∀ first later, rest = first ++ .look :: later → later = []
  returns : rest ≠ [] → result = .ok ()
  /-- A request follows only a stop that overtakes the attempt which a look let through. -/
  overtaken : ∀ sent, .request sent ∈ rest →
    ∃ earlier, link.isStopped (link.past ++ earlier) = false ∧
      (before = earlier ++ [.look] ∨
        before = earlier ++ [.look, .request (server.get tagsPath)] ∧ sent = server.pullRequest)

variable {server : Server} {link : Link} {first rest : List Traffic}

/-! ## Looks that let requests through -/

theorem admits_of_no_request (h : ∀ sent, .request sent ∉ rest) : server.Admits rest := by
  intro before sent later hsplit
  exact absurd (by simp [hsplit]) (h sent)

theorem LetThrough.append {earlier before : List Traffic} {sent : HttpRequest}
    (h : server.LetThrough earlier before sent) :
    server.LetThrough (first ++ earlier) (first ++ before) sent := by
  rcases h with ⟨rfl, rfl⟩ | ⟨rfl, rfl⟩
  · exact .inl ⟨(List.append_assoc ..).symm, rfl⟩
  · exact .inr ⟨(List.append_assoc ..).symm, rfl⟩

theorem Admits.append (hfirst : server.Admits first) (hrest : server.Admits rest) :
    server.Admits (first ++ rest) := by
  intro before sent later hsplit
  rcases List.append_eq_append_iff.1 hsplit with ⟨more, rfl, hlater⟩ | ⟨more, hwhole, hlater⟩
  · obtain ⟨earlier, hearlier⟩ := hrest more sent later hlater
    exact ⟨first ++ earlier, hearlier.append⟩
  · cases more with
    | nil =>
        obtain rfl : first = before := by simpa using hwhole
        obtain ⟨earlier, hearlier⟩ := hrest [] sent later hlater.symm
        exact ⟨first ++ earlier, by simpa using hearlier.append⟩
    | cons item more =>
        obtain ⟨rfl, -⟩ := List.cons.inj hlater
        exact hfirst before sent more hwhole

theorem Attempt.admits_traffic (attempt : Attempt) :
    server.Admits (.look :: attempt.traffic server) := by
  intro before sent later hsplit
  match before with
  | [] => simp at hsplit
  | [item] =>
      obtain ⟨rfl, rfl, -⟩ : .look = item ∧ server.get tagsPath = sent ∧ _ = later := by
        simpa [traffic] using hsplit
      exact ⟨[], .inl ⟨rfl, rfl⟩⟩
  | [item, other] =>
      obtain ⟨rfl, rfl, hfetched⟩ : .look = item ∧ .request (server.get tagsPath) = other ∧
          (attempt.report?.map fun _ => .request server.pullRequest).toList =
            .request sent :: later := by
        simpa [traffic] using hsplit
      cases hreport : attempt.report? with
      | none => simp [hreport] at hfetched
      | some report =>
          obtain ⟨rfl, -⟩ : server.pullRequest = sent ∧ [] = later := by
            simpa [hreport] using hfetched
          exact ⟨[], .inr ⟨rfl, rfl⟩⟩
  | _ :: _ :: _ :: _ =>
      cases hreport : attempt.report? with
      | none => simp [traffic, hreport] at hsplit
      | some report => simp [traffic, hreport] at hsplit

theorem Attempt.admits_round (attempt : Attempt) : server.Admits (attempt.round server) := by
  have hafter : server.Admits [.pause server.retryDelay, .look] := admits_of_no_request (by simp)
  exact (attempt.admits_traffic).append hafter

theorem Wait.admits_traffic (server : Server) (wait : Wait) :
    server.Admits (wait.traffic server) := by
  apply Admits.append
  · induction wait.failed with
    | nil => exact admits_of_no_request (by simp)
    | cons attempt failed ih =>
        rw [List.flatMap_cons]
        exact attempt.admits_round.append ih
  · cases wait.finish with
    | ready attempt => exact attempt.admits_traffic
    | halted => exact admits_of_no_request (by simp [Finish.traffic])
    | ended => exact admits_of_no_request (by simp [Finish.traffic])

theorem Wait.eq_concat_look [Json.Nesting] {wait : Wait} (hfound : wait.finish.attempts = [])
    (hsome : wait.traffic server ≠ []) :
    ∃ before, wait.traffic server = before ++ [.look] := by
  obtain ⟨failed, finish⟩ := wait
  cases finish with
  | ready attempt => exact nomatch hfound
  | halted => exact ⟨_, rfl⟩
  | ended =>
      rcases List.eq_nil_or_concat failed with rfl | ⟨earlier, last, rfl⟩
      · exact absurd rfl hsome
      · refine ⟨earlier.flatMap (Attempt.round server) ++
          .look :: (last.traffic server ++ [.pause server.retryDelay]), ?_⟩
        simp [traffic, Finish.traffic, Attempt.round]

/-! ## Stops -/

section stops

variable [Json.Nesting] {outcome : Outcome Link Unit} {wait : Wait} {left : Nat}
  {before : List Traffic} (hwait : Wait.Explains server left link outcome wait)
  (hlasts : link.StopLasts)
  (hsplit : wait.traffic server = before ++ rest)
  (hstopped : link.isStopped (link.past ++ before) = true)
include hwait hlasts hsplit hstopped

theorem Wait.Explains.ends_at_look {first later : List Traffic}
    (hlook : rest = first ++ .look :: later) : later = [] := by
  have hsees : link.isStopped (link.past ++ (before ++ first)) = true := by
    simpa using hlasts _ first hstopped
  exact hwait.heeds (before ++ first) later (by simp [hsplit, hlook]) hsees

theorem Wait.Explains.returns_of_stop (hrest : rest ≠ []) : outcome.result = .ok () := by
  refine hwait.returns.resolve_right fun hgaveUp => ?_
  obtain ⟨hall, hnone⟩ := hwait.raises.1 hgaveUp
  have hfound : wait.finish.attempts = [] := by
    have hle := hwait.attempts_le
    rw [Wait.attempts, List.length_append, hall] at hle
    exact List.length_eq_zero_iff.1 (by omega)
  have hsome : wait.traffic server ≠ [] := by simp [hsplit, hrest]
  obtain ⟨earlier, hearlier⟩ := Wait.eq_concat_look hfound hsome
  -- The stop came before this last look, which did not see it.
  have hprefix : before <+: earlier ++ [.look] := ⟨rest, by rw [← hsplit, hearlier]⟩
  have hearly : ¬ before <+: earlier := hlasts.not_prefix hstopped (hnone earlier [] hearlier)
  have hwhole := (List.prefix_concat_iff.1 hprefix).resolve_right hearly
  rw [← hwhole, hsplit] at hearlier
  exact hrest (List.append_right_eq_self.1 hearlier)

theorem Wait.Explains.overtaken {sent : HttpRequest} (hsent : .request sent ∈ rest) :
    ∃ earlier, link.isStopped (link.past ++ earlier) = false ∧
      (before = earlier ++ [.look] ∨
        before = earlier ++ [.look, .request (server.get tagsPath)] ∧
          sent = server.pullRequest) := by
  obtain ⟨mid, later, rfl⟩ := List.append_of_mem hsent
  obtain ⟨earlier, hearlier⟩ :=
    wait.admits_traffic server (before ++ mid) sent later (by simp [hsplit])
  have hprefix : before <+: before ++ mid := List.prefix_append ..
  -- The look that let the request through did not see the stop, so the stop came after it.
  have hnone : ∀ after, before ++ mid = earlier ++ .look :: after →
      link.isStopped (link.past ++ earlier) = false := by
    intro after hlook
    rw [← Bool.not_eq_true]
    intro hsees
    have hgoes : wait.traffic server = earlier ++ .look :: (after ++ .request sent :: later) := by
      rw [hsplit, ← List.append_assoc, hlook, List.append_assoc, List.cons_append]
    exact nomatch (List.append_eq_nil_iff.1 (hwait.heeds earlier _ hgoes hsees)).2
  rcases hearlier with ⟨hbefore, rfl⟩ | ⟨hbefore, rfl⟩
  · have hunseen := hnone [] hbefore
    have hearly : ¬ before <+: earlier := hlasts.not_prefix hstopped hunseen
    rw [hbefore] at hprefix
    exact ⟨earlier, hunseen, .inl ((List.prefix_concat_iff.1 hprefix).resolve_right hearly)⟩
  · have hunseen := hnone _ hbefore
    have hearly : ¬ before <+: earlier := hlasts.not_prefix hstopped hunseen
    have hpair : earlier ++ [.look, .request (server.get tagsPath)] =
        (earlier ++ [.look]) ++ [.request (server.get tagsPath)] := by simp
    rw [hbefore, hpair] at hprefix
    rcases List.prefix_concat_iff.1 hprefix with hwhole | hpart
    · exact ⟨earlier, hunseen, .inr ⟨hwhole.trans hpair.symm, rfl⟩⟩
    · exact ⟨earlier, hunseen, .inl ((List.prefix_concat_iff.1 hpart).resolve_right hearly)⟩

end stops

/-- Whenever the operator asks a wait to stop, it is over at the next look and does not give up
after that, and only a stop that overtakes an attempt is followed by a request. -/
theorem await_stops [Json.Nesting] (h : server.Relies link) (hlasts : link.StopLasts) :
    ∃ traffic, (server.await link).state = link.after traffic ∧
      ∀ before rest, traffic = before ++ rest → link.isStopped (link.past ++ before) = true →
        StopsAt server link (server.await link).result before rest := by
  obtain ⟨wait, hwait⟩ := Wait.exists_explains server.maxRetries.toNat 1 h
  refine ⟨wait.traffic server, hwait.state, fun before rest hsplit hstopped => ?_⟩
  exact {
    ends := fun _ _ hlook => hwait.ends_at_look hlasts hsplit hstopped hlook
    returns := hwait.returns_of_stop hlasts hsplit hstopped
    overtaken := fun _ hsent => hwait.overtaken hlasts hsplit hstopped hsent }

/-! ## Stops in time and too late -/

/-- A server that never comes up, and an operator who asks to stop during the first delay. -/
def asleep : Link where
  replies _ := .answer 503 []
  isStopped past := !(past.filterMap Link.pause?).isEmpty

section Asleep

attribute [local instance] Json.Nesting.usual

theorem asleep_relies : patient.Relies asleep where
  failed _ _ hreply := nomatch hreply
  readable _ := by
    have hempty : ∀ text ∈ textsOf (.answer 503 []), Json.isReadable text = true := by
      decide
    exact hempty
  delay := rfl

theorem asleep_stopLasts : asleep.StopLasts := by
  intro before after hstopped
  simp only [asleep, List.filterMap_append, Bool.not_eq_true', List.isEmpty_eq_false_iff]
    at hstopped ⊢
  exact List.append_ne_nil_of_left_ne_nil hstopped _

theorem asleep_stops :
    patient.Relies asleep ∧ asleep.StopLasts ∧
      (patient.await asleep).state.requests.map (·.method) = ["GET"] ∧
      ∃ traffic, (patient.await asleep).state = asleep.after traffic ∧
        ∀ before rest, traffic = before ++ rest → asleep.isStopped (asleep.past ++ before) = true →
          StopsAt patient asleep (patient.await asleep).result before rest :=
  ⟨asleep_relies, asleep_stopLasts, by decide, await_stops asleep_relies asleep_stopLasts⟩

/-- A server without the model, and an operator who asks to stop while its list of models is on the
way. -/
def overtaken : Link where
  replies
    | 0 => listing []
    | _ => .answer 200 []
  isStopped past := !(past.filterMap Link.request?).isEmpty

/-- The model is fetched all the same. -/
theorem pull_after_stop :
    overtaken.isStopped ((patient.await overtaken).state.past.take 2) = true ∧
      (((patient.await overtaken).state.past.drop 2).filterMap Link.request?).map
        (fun sent => (sent.method, sent.url)) = [("POST", "http://localhost:11434/api/pull")] := by
  decide

end Asleep

end Rulebound.Server
