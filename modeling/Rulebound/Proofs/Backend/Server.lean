import Rulebound.Backend.Server

/-!
# What a server makes of a prompt

Whatever comes back from the server, a prompt has one of three outcomes: a text, a value that is no
text and counts as something, or a fault that is not of the exchange. Which of them it is can be
read off what comes back.
-/

namespace Rulebound

def Link.next (link : Link) : HttpReply :=
  link.replies link.requests.length

/-- A value that stands in the place of a text and is none. -/
def Json.IsUnfit (value : Json) : Prop :=
  value.isTruthy = true ∧ ∀ text, value ≠ .string text

namespace Server

/-- A prompt that is sent, and to an address from which an answer can be taken in. -/
def Asks [Json.Nesting] (server : Server) (prompt : Prompt) : Prop :=
  unsent? ((server.generateRequest prompt).body.getD .null) = none ∧
    Address.namesScheme (server.generateRequest prompt).url = true

def fieldsOf [Json.Nesting] : HttpReply → Except Fault Json.Fields
  | .failed fault => .error fault
  | .answer status body => successBody (status, body) >>= bodyFields generatePath

/-- What comes back holds a value in the place of the response. -/
def Responds [Json.Nesting] (reply : HttpReply) (value : Json) : Prop :=
  ∃ fields, fieldsOf reply = .ok fields ∧ Json.lookup? fields "response" = some value

/-- What comes back is nested too deeply to be read. -/
def IsTooDeep [Json.Nesting] (reply : HttpReply) : Prop :=
  ∃ status body fault, reply = .answer status body ∧ fieldsOf reply = .error fault ∧
    fault.kind = .recursion

variable {server : Server} {link : Link} {prompt : Prompt} {value : Json}

/-! ## Bodies and fields -/

theorem fieldOrEmpty_cases (fields : Json.Fields) (name : String) :
    (∃ text, fieldOrEmpty fields name = .string text) ∨
      (Json.lookup? fields name = some (fieldOrEmpty fields name) ∧
        (fieldOrEmpty fields name).IsUnfit) := by
  unfold fieldOrEmpty
  cases hfield : Json.lookup? fields name with
  | none => exact .inl ⟨"", rfl⟩
  | some value =>
      cases htruthy : value.isTruthy with
      | false =>
          simp only [htruthy, Bool.false_eq_true, ↓reduceIte]
          exact .inl ⟨"", rfl⟩
      | true =>
          simp only [htruthy, ↓reduceIte]
          by_cases htext : ∃ text, value = .string text
          · exact .inl htext
          · exact .inr ⟨trivial, htruthy, fun text hvalue => htext ⟨text, hvalue⟩⟩

theorem fieldOrEmpty_unfit {fields : Json.Fields} {name : String}
    (hfield : Json.lookup? fields name = some value) (hunfit : value.IsUnfit) :
    fieldOrEmpty fields name = value := by
  simp [fieldOrEmpty, hfield, hunfit.1]

theorem ofJson_unfit (h : value.IsUnfit) : Reply.ofJson value = .other value := by
  cases value with
  | string text => exact absurd rfl (h.2 text)
  | null => exact nomatch h.1
  | _ => rfl

variable [Json.Nesting]

theorem bodyFields_error_cases {path : String} {body : List UInt8} {fault : Fault}
    (h : bodyFields path body = .error fault) :
    isMendable fault = true ∨ ∃ text reason, Text.decodeAny? body = some text ∧
      Json.parse text = .error reason ∧ reason.fault = fault := by
  unfold bodyFields at h
  cases hdecoded : Text.decodeAny? body with
  | none =>
      simp only [hdecoded, Except.error.injEq] at h
      subst h
      exact .inl rfl
  | some text =>
      simp only [hdecoded] at h
      cases hparsed : Json.parse text with
      | error reason =>
          simp only [hparsed, Except.error.injEq] at h
          exact .inr ⟨text, reason, rfl, hparsed, h⟩
      | ok value =>
          simp only [hparsed] at h
          split at h
          · simp_all
          · exact nomatch h
          · simp only [Except.error.injEq] at h
            subst h
            exact .inl rfl

theorem bodyFields_error {path : String} {body : List UInt8} {fault : Fault}
    (h : bodyFields path body = .error fault) :
    isMendable fault = true ∨ fault.kind = .recursion := by
  rcases bodyFields_error_cases h with hmends | ⟨text, reason, -, -, rfl⟩
  · exact .inl hmends
  · cases reason with
    | notJson => exact .inl rfl
    | longInteger size => exact .inl rfl
    | deepArray => exact .inr rfl
    | deepObject => exact .inr rfl

theorem fieldsOf_error {status : Nat} {body : List UInt8} {fault : Fault}
    (h : fieldsOf (.answer status body) = .error fault) :
    isMendable fault = true ∨ fault.kind = .recursion := by
  unfold fieldsOf successBody at h
  cases hstatus : isSuccess status with
  | true =>
      have hbody : bodyFields generatePath body = .error fault := by
        simpa [hstatus, Bind.bind, Except.bind] using h
      exact bodyFields_error hbody
  | false =>
      have hfault : (⟨.http, some ("status " ++ intText status), ""⟩ : Fault) = fault := by
        simpa [hstatus, Bind.bind, Except.bind] using h
      subst hfault
      exact .inl rfl

/-! ## Prompts -/

theorem generate_of_asks (h : server.Asks prompt) :
    (server.generate link prompt).result =
      match fieldsOf link.next with
      | .ok fields => .ok (.ofJson (fieldOrEmpty fields "response"))
      | .error fault => if isMendable fault then .ok (.text fallback) else .error fault := by
  obtain ⟨hsent, hscheme⟩ := h
  unfold generate ask exchange Link.next
  rw [hsent]
  simp only [Link.send]
  cases hreply : link.replies link.requests.length with
  | failed fault =>
      by_cases hmends : isMendable fault = true
      · simp [fieldsOf, settled, hmends, replaced, Bind.bind, Except.bind, Except.map, Reply.ofJson]
      · simp [fieldsOf, settled, hmends, Bind.bind, Except.bind, Except.map]
  | answer status body =>
      simp only [hscheme, ↓reduceIte]
      have hfields : fieldsOf (.answer status body) =
          (Except.ok (status, body) >>= successBody >>= bodyFields generatePath) := rfl
      rw [← hfields]
      cases hanswer : fieldsOf (.answer status body) with
      | ok fields => simp [settled, Except.map]
      | error fault =>
          by_cases hmends : isMendable fault = true
          · simp [settled, hmends, replaced, Except.map, Reply.ofJson]
          · simp [settled, hmends, Except.map]

theorem isMendable_unsent {fault : Fault}
    (h : unsent? ((server.generateRequest prompt).body.getD .null) = some fault) :
    isMendable fault = true := by
  obtain ⟨room, hroom⟩ : ∃ room, Json.deepest = room + 8 :=
    ⟨Json.deepest - 8, (Nat.sub_add_cancel Json.Nesting.enough).symm⟩
  unfold unsent? at h
  by_cases hfinite : ((server.generateRequest prompt).body.getD .null).isFinite = true
  · rw [if_pos hfinite] at h
    have hwrite : Json.unwritable? Json.deepest ((server.generateRequest prompt).body.getD .null) =
        Json.unwritableInt? server.options.maxTokens := by
      simp [generateRequest, post, optionsJson, hroom, Json.unwritable?, Json.unwritableField?]
    unfold Json.write at h
    rw [hwrite] at h
    unfold Json.unwritableInt? at h
    by_cases hshort : IsShort server.options.maxTokens
    · rw [if_pos hshort] at h
      exact nomatch h
    · rw [if_neg hshort] at h
      obtain rfl := Option.some.inj h
      rfl
  · rw [if_neg hfinite] at h
    obtain rfl := Option.some.inj h
    rfl

theorem generate_of_not_asks (link : Link) (h : ¬ server.Asks prompt) :
    (server.generate link prompt).result = .ok (.text fallback) ∨
      ∃ fault, link.next = .failed fault ∧ isMendable fault = false ∧
        (server.generate link prompt).result = .error fault := by
  unfold generate ask
  cases hsent : unsent? ((server.generateRequest prompt).body.getD .null) with
  | some fault =>
      exact .inl (by
        simp [settled, isMendable_unsent hsent, replaced, Except.map, Reply.ofJson])
  | none =>
      have hscheme : Address.namesScheme (server.generateRequest prompt).url = false := by
        rw [← Bool.not_eq_true]
        exact fun hscheme => h ⟨hsent, hscheme⟩
      simp only [exchange, Link.send, Link.next]
      cases hreply : link.replies link.requests.length with
      | failed fault =>
          by_cases hmends : isMendable fault = true
          · exact .inl (by
              simp [settled, hmends, replaced, Bind.bind, Except.bind, Except.map, Reply.ofJson])
          · exact .inr ⟨fault, rfl, by simpa using hmends, by
              simp [settled, hmends, Bind.bind, Except.bind, Except.map]⟩
      | answer status body =>
          have hmends : ∀ message, isMendable ⟨.value, message, ""⟩ = true := fun _ => rfl
          exact .inl (by
            simp [settled, hscheme, hmends, replaced, Bind.bind, Except.bind, Except.map,
              Reply.ofJson])

/-- The answer to a prompt is no text exactly if the server responds with something unfit. -/
theorem generate_other_iff :
    (server.generate link prompt).result = .ok (.other value) ↔
      server.Asks prompt ∧ Responds link.next value ∧ value.IsUnfit := by
  constructor
  · intro h
    by_cases hasks : server.Asks prompt
    · rw [generate_of_asks hasks] at h
      cases hfields : fieldsOf link.next with
      | error fault =>
          rw [hfields] at h
          by_cases hmends : isMendable fault = true
          · simp [hmends] at h
          · simp [hmends] at h
      | ok fields =>
          rw [hfields] at h
          rcases fieldOrEmpty_cases fields "response" with ⟨text, htext⟩ | ⟨hfield, hunfit⟩
          · simp [htext, Reply.ofJson] at h
          · have hsame : fieldOrEmpty fields "response" = value := by
              simpa [ofJson_unfit hunfit] using h
            rw [hsame] at hfield hunfit
            exact ⟨hasks, ⟨fields, hfields, hfield⟩, hunfit⟩
    · rcases generate_of_not_asks link hasks with htext | ⟨fault, -, -, hfault⟩
      · exact nomatch h.symm.trans htext
      · exact nomatch h.symm.trans hfault
  · rintro ⟨hasks, ⟨fields, hfields, hfield⟩, hunfit⟩
    rw [generate_of_asks hasks, hfields]
    simp [fieldOrEmpty_unfit hfield hunfit, ofJson_unfit hunfit]

/-- If the server responds with nothing unfit and nothing too deep, a prompt is answered by a
text. -/
theorem generate_text (hfailed : ∀ fault, link.next = .failed fault → isMendable fault = true)
    (hdeep : ¬ IsTooDeep link.next)
    (hfit : ∀ value, (server.generate link prompt).result ≠ .ok (.other value)) :
    ∃ text, (server.generate link prompt).result = .ok (.text text) := by
  by_cases hasks : server.Asks prompt
  · rw [generate_of_asks hasks] at hfit ⊢
    cases hfields : fieldsOf link.next with
    | error fault =>
        have hmends : isMendable fault = true := by
          cases hreply : link.next with
          | failed other =>
              rw [hreply] at hfields
              injection hfields with hsame
              exact hsame ▸ hfailed other hreply
          | answer status body =>
              rw [hreply] at hfields
              rcases fieldsOf_error hfields with hmends | hkind
              · exact hmends
              · exact absurd ⟨status, body, fault, hreply, hreply ▸ hfields, hkind⟩ hdeep
        exact ⟨fallback, by simp [hmends]⟩
    | ok fields =>
        rw [hfields] at hfit
        rcases fieldOrEmpty_cases fields "response" with ⟨text, htext⟩ | ⟨-, hunfit⟩
        · exact ⟨text.shown, by simp [htext, Reply.ofJson]⟩
        · exact absurd (by simp [ofJson_unfit hunfit]) (hfit (fieldOrEmpty fields "response"))
  · rcases generate_of_not_asks link hasks with htext | ⟨fault, hreply, hmends, -⟩
    · exact ⟨fallback, htext⟩
    · rw [hfailed fault hreply] at hmends
      exact Bool.noConfusion hmends

end Server

end Rulebound
