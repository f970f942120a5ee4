import Rulebound.Proofs.Backend.Link
import Rulebound.Proofs.Text.Pieces

/-!
# Asking a server whether it is ready

Asking once makes one attempt: it asks for the list of models and, exactly if that comes without the
model, has the model fetched. The server is ready exactly if it lists the model or the model was
fetched; whatever else comes back is taken in one's stride.
-/

namespace Rulebound

/-- Whether a text is JSON, or is refused for what it says: it is not nested beyond what can be
read. -/
def Json.isReadable [Json.Nesting] (text : List Char) : Bool :=
  match Json.parse text with
  | .ok _ => true
  | .error reason => reason.fault.kind.isOfValue

namespace Server

/-! ## What a server does -/

/-- What is taken in of a reply. From an address without a scheme only faults are. -/
def taken (sent : HttpRequest) : HttpReply → Except Fault (Nat × List UInt8)
  | .failed fault => .error fault
  | .answer status body =>
      if Address.namesScheme sent.url then .ok (status, body)
      else .error ⟨.value, some ("unknown url type: " ++ Text.quoted (shownUrl sent.url)), ""⟩

/-- A reply that reports success and is an object, with the fields of that object. -/
def Lists [Json.Nesting] (server : Server) (reply : HttpReply) (fields : Json.Fields) : Prop :=
  ∃ status body, taken (server.get tagsPath) reply = .ok (status, body) ∧
    isSuccess status = true ∧ bodyFields tagsPath body = .ok fields

/-- Fields that hold a list of models one of which has the family of the model in its name. A model
without a name has an empty one. -/
def Names (server : Server) (fields : Json.Fields) : Prop :=
  ∃ models model, Json.lookup? fields "models" = some (.array models) ∧ .object model ∈ models ∧
    server.family.toList <:+: ((Json.lookup? model "name").getD (.string "")).display.toList

/-- A reply to a request for the model that reports success, every line of which can be read. -/
def Fetches [Json.Nesting] (server : Server) (reply : HttpReply) : Prop :=
  ∃ status body, taken server.pullRequest reply = .ok (status, body) ∧ isSuccess status = true ∧
    ∀ line ∈ Text.streamLines (Text.decodeLenient body), ∃ status?, pullStatus line = .ok status?

def textsOf : HttpReply → List (List Char)
  | .failed _ => []
  | .answer _ body =>
      (Text.decodeAny? body).toList ++ Text.streamLines (Text.decodeLenient body)

/-- What is taken as given: no request fails but as an exchange over HTTP, no reading of JSON fails
but for its value, and the delay can be waited for. -/
structure Relies [Json.Nesting] (server : Server) (link : Link) : Prop where
  failed : ∀ place fault, link.replies place = .failed fault → fault.kind = .http
  readable : ∀ place, ∀ text ∈ textsOf (link.replies place), Json.isReadable text = true
  delay : link.delayFault? server.retryDelay = none

/-! ## Attempts -/

/-- What comes back in an attempt: the list of models, and the report of a fetch if there is one. -/
structure Attempt where
  tags : HttpReply
  report? : Option HttpReply

namespace Attempt

def replies (attempt : Attempt) : List HttpReply :=
  attempt.tags :: attempt.report?.toList

def traffic (server : Server) (attempt : Attempt) : List Traffic :=
  .request (server.get tagsPath) ::
    (attempt.report?.map fun _ => .request server.pullRequest).toList

/-- The model is fetched exactly if the server lists models and that is none of them. -/
def IsMade [Json.Nesting] (server : Server) (attempt : Attempt) : Prop :=
  attempt.report?.isSome = true ↔ ∃ fields, server.Lists attempt.tags fields ∧ ¬ server.Names fields

/-- The server lists the model, or the model was fetched. -/
def Ready [Json.Nesting] (server : Server) (attempt : Attempt) : Prop :=
  (∃ fields, server.Lists attempt.tags fields ∧ server.Names fields) ∨
    ∃ report ∈ attempt.report?, server.Fetches report

end Attempt

variable {server : Server} {link : Link}

theorem exchange_eq (link : Link) (sent : HttpRequest) :
    exchange link sent = (link.after [.request sent], taken sent link.next) := by
  unfold exchange Link.next
  simp only [Link.send]
  cases link.replies link.requests.length with
  | failed fault => rfl
  | answer status body =>
      by_cases hscheme : Address.namesScheme sent.url = true
      · simp [taken, Link.after, hscheme]
      · simp [taken, Link.after, hscheme]

theorem eq_answer_of_taken {sent : HttpRequest} {answer : Nat × List UInt8} {reply : HttpReply}
    (htaken : taken sent reply = .ok answer) : reply = .answer answer.1 answer.2 := by
  cases reply with
  | failed fault => simp [taken] at htaken
  | answer status body =>
      by_cases hscheme : Address.namesScheme sent.url = true
      · simp only [taken, hscheme, ↓reduceIte, Except.ok.injEq] at htaken
        subst htaken
        rfl
      · simp [taken, hscheme] at htaken

theorem offers_iff {fields : Json.Fields} : server.offers fields = true ↔ server.Names fields := by
  unfold offers Names
  cases hmodels : Json.lookup? fields "models" with
  | none => simp
  | some value =>
      cases value with
      | array models =>
          simp only [List.any_eq_true, Option.some.injEq, Json.array.injEq]
          constructor
          · rintro ⟨entry, hentry, hfamily⟩
            cases entry with
            | object model => exact ⟨models, model, rfl, hentry, Text.contains_iff.1 hfamily⟩
            | _ => exact nomatch hfamily
          · rintro ⟨_, model, rfl, hentry, hfamily⟩
            exact ⟨_, hentry, Text.contains_iff.2 hfamily⟩
      | _ => simp

theorem pullFault_cases {fault : Fault} (h : isMendable fault = true) :
    isMendable (pullFault fault) = true ∨ (pullFault fault).kind = .backendUnavailable := by
  unfold pullFault
  split
  · exact .inr rfl
  · exact .inl h

theorem notReady_spec (link : Link) (logs : List Log.Line) {fault : Fault}
    (h : isMendable fault = true ∨ fault.kind = .backendUnavailable) :
    (notReady link logs fault).state = link ∧ (notReady link logs fault).result = .ok false := by
  unfold notReady
  by_cases hmends : isMendable fault = true
  · simp [hmends]
  · simp [hmends, h.resolve_left hmends]

variable [Json.Nesting]

/-! ## Fetch reports -/

theorem pullLogs_none_iff {lines : List (List Char)} :
    (pullLogs lines).2 = none ↔ ∀ line ∈ lines, ∃ status?, pullStatus line = .ok status? := by
  induction lines with
  | nil => simp [pullLogs]
  | cons line rest ih =>
      cases hstatus : pullStatus line with
      | error fault => simp [pullLogs, hstatus]
      | ok status? => simp [pullLogs, hstatus, ih]

theorem exists_of_pullLogs {lines : List (List Char)} {fault : Fault}
    (h : (pullLogs lines).2 = some fault) : ∃ line ∈ lines, pullStatus line = .error fault := by
  induction lines with
  | nil => exact nomatch h
  | cons line rest ih =>
      cases hstatus : pullStatus line with
      | error other =>
          obtain rfl : other = fault := by simpa [pullLogs, hstatus] using h
          exact ⟨line, List.mem_cons_self, hstatus⟩
      | ok status? =>
          obtain ⟨later, hlater, hfault⟩ := ih (by simpa [pullLogs, hstatus] using h)
          exact ⟨later, List.mem_cons_of_mem _ hlater, hfault⟩

/-! ## Faults of an attempt -/

namespace Relies

theorem after (h : server.Relies link) (traffic : List Traffic) :
    server.Relies (link.after traffic) :=
  ⟨h.failed, h.readable, h.delay⟩

theorem isMendable_taken (h : server.Relies link) {sent : HttpRequest} {fault : Fault}
    (htaken : taken sent link.next = .error fault) : isMendable fault = true := by
  cases hreply : link.next with
  | failed other =>
      obtain rfl : other = fault := by simpa [hreply, taken] using htaken
      simp [isMendable, h.failed _ _ hreply]
  | answer status body =>
      by_cases hscheme : Address.namesScheme sent.url = true
      · simp [hreply, taken, hscheme] at htaken
      · rw [hreply] at htaken
        simp only [taken, if_neg hscheme, Except.error.injEq] at htaken
        subst htaken
        rfl

theorem isMendable_fields (h : server.Relies link) {sent : HttpRequest} {status : Nat}
    {body : List UInt8} {path : String} {fault : Fault}
    (htaken : taken sent link.next = .ok (status, body))
    (hfields : bodyFields path body = .error fault) : isMendable fault = true := by
  rcases bodyFields_error_cases hfields with hmends | ⟨text, reason, hdecoded, hparsed, rfl⟩
  · exact hmends
  · have htext : text ∈ textsOf link.next := by simp [eq_answer_of_taken htaken, textsOf, hdecoded]
    have hreadable := h.readable _ text htext
    simpa [isMendable, Json.isReadable, hparsed] using Or.inr hreadable

theorem isMendable_status (h : server.Relies link) {sent : HttpRequest} {status : Nat}
    {body line : List _} {fault : Fault}
    (htaken : taken sent link.next = .ok (status, body))
    (hline : line ∈ Text.streamLines (Text.decodeLenient body))
    (hstatus : pullStatus line = .error fault) : isMendable fault = true := by
  have htext : line ∈ textsOf link.next := by simp [eq_answer_of_taken htaken, textsOf, hline]
  have hreadable := h.readable _ line htext
  unfold pullStatus Json.readAny at hstatus
  cases hparsed : Json.parse line with
  | ok value => simp [hparsed, Except.map] at hstatus
  | error reason =>
      have hvalue : reason.fault.kind.isOfValue = true := by
        simpa [Json.isReadable, hparsed] using hreadable
      cases reason with
      | notJson => simp [hparsed, Except.map] at hstatus
      | _ =>
          simp only [hparsed, Except.map, Except.error.injEq] at hstatus
          subst hstatus
          simp [isMendable, hvalue]

end Relies

/-! ## Asking once -/

theorem Lists.unique {reply : HttpReply} {fields others : Json.Fields}
    (h : server.Lists reply fields) (hothers : server.Lists reply others) : others = fields := by
  obtain ⟨status, body, htaken, -, hfields⟩ := h
  obtain ⟨_, _, hsame, -, hother⟩ := hothers
  obtain ⟨rfl, rfl⟩ := Prod.mk.inj (Except.ok.inj (htaken.symm.trans hsame))
  exact Except.ok.inj (hother.symm.trans hfields)

theorem pull_state : (server.pull link).state = link.after [.request server.pullRequest] := by
  simp only [pull, exchange_eq]
  repeat' split
  all_goals rfl

theorem pull_cases (h : server.Relies link) :
    ((server.pull link).result = .ok () ∧ server.Fetches link.next) ∨
      ∃ fault, (server.pull link).result = .error fault ∧
        (isMendable fault = true ∨ fault.kind = .backendUnavailable) ∧
        ¬ server.Fetches link.next := by
  simp only [pull, exchange_eq]
  cases htaken : taken server.pullRequest link.next with
  | error fault =>
      have hunfetched : ¬ server.Fetches link.next := by simp [Fetches, htaken]
      exact .inr ⟨_, rfl, pullFault_cases (h.isMendable_taken htaken), hunfetched⟩
  | ok answer =>
      obtain ⟨status, body⟩ := answer
      cases hsuccess : isSuccess status with
      | false =>
          have hunfetched : ¬ server.Fetches link.next := by simp [Fetches, htaken, hsuccess]
          simp only [successBody, hsuccess, Bind.bind, Except.bind, Bool.false_eq_true, ↓reduceIte]
          exact .inr ⟨_, rfl, pullFault_cases rfl, hunfetched⟩
      | true =>
          have hfetches : server.Fetches link.next ↔
              (pullLogs (Text.streamLines (Text.decodeLenient body))).2 = none := by
            simp [Fetches, htaken, hsuccess, pullLogs_none_iff]
          simp only [hfetches, successBody, hsuccess, Bind.bind, Except.bind, ↓reduceIte]
          split
          next logs fault hlogs =>
            obtain ⟨line, hline, hstatus⟩ := exists_of_pullLogs (congrArg Prod.snd hlogs)
            exact .inr ⟨fault, rfl, .inl (h.isMendable_status htaken hline hstatus), by
              simp [hlogs]⟩
          next logs hlogs => exact .inl ⟨rfl, by simp [hlogs]⟩

theorem fetch_spec (h : server.Relies link) :
    (server.fetch link).state = link.after [.request server.pullRequest] ∧
      ∃ ready, (server.fetch link).result = .ok ready ∧
        (ready = true ↔ server.Fetches link.next) := by
  rw [← pull_state]
  unfold fetch
  rcases pull_cases h with ⟨hpulled, hfetches⟩ | ⟨fault, hpulled, hfault, hunfetched⟩
  · exact ⟨by simp [hpulled], true, by simp [hpulled], iff_of_true rfl hfetches⟩
  · obtain ⟨hstate, hresult⟩ := notReady_spec (server.pull link).state
      (.info ("Model " ++ server.options.model ++ " not found, pulling...") ::
        (server.pull link).logs) hfault
    simp only [hpulled]
    exact ⟨hstate, false, hresult, iff_of_false Bool.false_ne_true hunfetched⟩

theorem check_unlisted (h : server.Relies link)
    (hunlisted : ∀ fields, ¬ server.Lists link.next fields) :
    (server.check link).state = link.after [.request (server.get tagsPath)] ∧
      (server.check link).result = .ok false := by
  simp only [check, exchange_eq]
  cases htaken : taken (server.get tagsPath) link.next with
  | error fault => exact notReady_spec _ [] (.inl (h.isMendable_taken htaken))
  | ok answer =>
      obtain ⟨status, body⟩ := answer
      cases hsuccess : isSuccess status with
      | false => simp [hsuccess]
      | true =>
          cases hfields : bodyFields tagsPath body with
          | error fault =>
              simp only [hsuccess, hfields, Bool.not_true, Bool.false_eq_true, ↓reduceIte]
              exact notReady_spec _ [] (.inl (h.isMendable_fields htaken hfields))
          | ok fields => exact absurd ⟨status, body, htaken, hsuccess, hfields⟩ (hunlisted fields)

theorem check_listed {fields : Json.Fields} (h : server.Lists link.next fields) :
    server.check link =
      if server.offers fields then ⟨link.after [.request (server.get tagsPath)], .ok true, []⟩
      else server.fetch (link.after [.request (server.get tagsPath)]) := by
  obtain ⟨status, body, htaken, hsuccess, hfields⟩ := h
  simp only [check, exchange_eq]
  simp only [htaken, hsuccess, hfields, Bool.not_true, Bool.false_eq_true, ↓reduceIte]

/-- What asking once does: it makes an attempt, and comes out as the attempt tells. -/
structure Attempt.Accounts (server : Server) (link : Link) (checked : Outcome Link Bool)
    (attempt : Attempt) : Prop where
  made : attempt.IsMade server
  replies : attempt.replies = link.answers attempt.replies.length
  state : checked.state = link.after (attempt.traffic server)
  result : ∃ ready, checked.result = .ok ready ∧ (ready = true ↔ attempt.Ready server)

theorem check_accounts (h : server.Relies link) :
    ∃ attempt, Attempt.Accounts server link (server.check link) attempt := by
  by_cases hlisted : ∃ fields, server.Lists link.next fields
  · obtain ⟨fields, hlists⟩ := hlisted
    have honly : ∀ {others}, server.Lists link.next others → others = fields := hlists.unique
    rw [check_listed hlists]
    by_cases hoffers : server.offers fields = true
    · have hnames := offers_iff.1 hoffers
      rw [if_pos hoffers]
      exact ⟨⟨link.next, none⟩, {
        made := by
          refine iff_of_false Bool.false_ne_true ?_
          rintro ⟨others, hothers, hunnamed⟩
          exact hunnamed (honly hothers ▸ hnames)
        replies := rfl
        state := rfl
        result := ⟨true, rfl, iff_of_true rfl (.inl ⟨fields, hlists, hnames⟩)⟩ }⟩
    · have hunnamed : ¬ server.Names fields := fun hnames => hoffers (offers_iff.2 hnames)
      obtain ⟨hstate, ready, hresult, hready⟩ :=
        fetch_spec (h.after [.request (server.get tagsPath)])
      rw [if_neg hoffers]
      exact ⟨⟨link.next, some (link.after [.request (server.get tagsPath)]).next⟩, {
        made := iff_of_true rfl ⟨fields, hlists, hunnamed⟩
        replies := by
          simp [Attempt.replies, Link.answers, Link.next, Link.request?, List.range_succ]
        state := by simpa [Attempt.traffic] using hstate
        result := by
          refine ⟨ready, hresult, hready.trans ⟨fun hfetches => .inr ⟨_, rfl, hfetches⟩, ?_⟩⟩
          rintro (⟨others, hothers, hnames⟩ | ⟨report, hreport, hfetches⟩)
          · exact absurd (honly hothers ▸ hnames) hunnamed
          · exact Option.some.inj hreport ▸ hfetches }⟩
  · have hunlisted : ∀ fields, ¬ server.Lists link.next fields := not_exists.1 hlisted
    obtain ⟨hstate, hresult⟩ := check_unlisted h hunlisted
    exact ⟨⟨link.next, none⟩, {
      made := by simp [Attempt.IsMade, hunlisted]
      replies := rfl
      state := hstate
      result := ⟨false, hresult, by simp [Attempt.Ready, hunlisted]⟩ }⟩

end Server

end Rulebound
