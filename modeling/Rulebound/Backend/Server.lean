import Rulebound.Address
import Rulebound.Backend
import Rulebound.Fault
import Rulebound.Json.Printer
import Rulebound.Json.Reader
import Rulebound.Json.Value
import Rulebound.Text.Encoding
import Rulebound.Text.Search

/-!
# Servers

A backend that asks a model server over HTTP.
-/

namespace Rulebound

/-!
## Links to a server

Requests over HTTP and what comes back. A link knows what the server will answer, when the operator
asks to stop and which delays can be waited for, and keeps everything that went over it.
-/

structure HttpRequest where
  method : String
  url : String
  body : Option Json
deriving Repr, Inhabited

/-- What comes back: a status with the bytes of a body, or nothing but a fault. -/
inductive HttpReply where
  | answer (status : Nat) (body : List UInt8)
  | failed (fault : Fault)
deriving DecidableEq, Repr, Inhabited

inductive Traffic where
  | request (sent : HttpRequest)
  /-- A look at whether the operator has asked to stop. -/
  | look
  | pause (seconds : Binary64)
deriving Repr

structure Link where
  /-- What comes back for the first request, the second one, and so on. -/
  replies : Nat → HttpReply
  /-- Whether the operator has asked to stop, after some traffic. -/
  isStopped : List Traffic → Bool := fun _ => false
  /-- The fault of a delay that cannot be waited for. -/
  delayFault? : Binary64 → Option Fault := fun _ => none
  past : List Traffic := []

namespace Link

def request? : Traffic → Option HttpRequest
  | .request sent => some sent
  | _ => none

def pause? : Traffic → Option Binary64
  | .pause seconds => some seconds
  | _ => none

def requests (link : Link) : List HttpRequest :=
  link.past.filterMap request?

def stopped (link : Link) : Bool :=
  link.isStopped link.past

def send (link : Link) (sent : HttpRequest) : Link × HttpReply :=
  ({ link with past := link.past ++ [.request sent] }, link.replies link.requests.length)

/-- The link after a look at whether the operator has asked to stop, and what is seen. -/
def look (link : Link) : Link × Bool :=
  ({ link with past := link.past ++ [.look] }, link.stopped)

/-- The link after a delay, and whether the operator is seen to have asked to stop by its end. If
that was so before, nothing is waited for. -/
def pause (link : Link) (seconds : Binary64) : Except Fault (Link × Bool) :=
  match if link.stopped then none else link.delayFault? seconds with
  | some fault => .error fault
  | none => .ok ({ link with past := link.past ++ [.pause seconds] } : Link).look

def down (reason : String) : Link where
  replies _ := .failed ⟨.http, some reason, ""⟩

end Link

/-!
## Model servers

A backend that talks to a model server. Before the first prompt it waits until the server offers
the model, asking again after a delay and having a missing model fetched. A prompt that the server
does not answer as it should is answered by an action that does nothing.
-/

structure Server where
  options : ModelOptions
  host : String := "http://localhost:11434"
  /-- How often the server is asked whether it is ready. -/
  maxRetries : Int := 30
  /-- Seconds before it is asked again. -/
  retryDelay : Binary64 := 5
deriving Repr, Inhabited

namespace Server

variable [Json.Nesting]

/-- The answer in place of one that the server failed to give. -/
def fallback : String := "ACTION: wait"

/-- The address of a path on the server; there is none if that of the server has a flaw. -/
def url (server : Server) (path : String) : String :=
  match Address.ofText server.host with
  | .ok base => (base.within path).text
  | .error _ => ""

def obstacle? (server : Server) : Option Fault :=
  match Address.ofText server.host with
  | .ok _ => none
  | .error flaw => some ⟨.address, some flaw.message, ""⟩

/-! ## What comes back -/

def isSuccess (status : Nat) : Bool :=
  200 ≤ status && status < 300

/-- A written address without the mark of an empty fragment. -/
def shownUrl (url : String) : String :=
  if url.toList.getLast? = some '#' then String.ofList url.toList.dropLast else url

/-- The status and the body that come back for a request. What comes from an address without a
scheme cannot be taken in. -/
def exchange (link : Link) (sent : HttpRequest) : Link × Except Fault (Nat × List UInt8) :=
  let (link, reply) := link.send sent
  match reply with
  | .failed fault => (link, .error fault)
  | .answer status body =>
      if Address.namesScheme sent.url then (link, .ok (status, body))
      else (link, .error ⟨.value,
        some ("unknown url type: " ++ Text.quoted (shownUrl sent.url)), ""⟩)

def successBody (answer : Nat × List UInt8) : Except Fault (List UInt8) :=
  if isSuccess answer.1 then .ok answer.2
  else .error ⟨.http, some ("status " ++ intText answer.1), ""⟩

def bodyFields (path : String) (body : List UInt8) : Except Fault Json.Fields :=
  match Text.decodeAny? body with
  | none => .error ⟨.unicodeDecode, none, ""⟩
  | some text =>
      match Json.parse text with
      | .error reason => .error reason.fault
      | .ok (.object fields) => .ok fields
      | .ok _ => .error ⟨.value, some ("Expected a JSON object from " ++ path), ""⟩

/-- Whether a fault is of an exchange with the server or of what came back, so that the agent goes
on without an answer. -/
def isMendable (fault : Fault) : Bool :=
  fault.kind == .http || fault.kind.isOfValue

def fieldOrEmpty (fields : Json.Fields) (name : String) : Json :=
  match Json.lookup? fields name with
  | some value => if value.isTruthy then value else .string ""
  | none => .string ""

/-! ## Requests -/

def tagsPath : String := "/api/tags"
def pullPath : String := "/api/pull"
def generatePath : String := "/api/generate"
def chatPath : String := "/api/chat"

def get (server : Server) (path : String) : HttpRequest :=
  ⟨"GET", server.url path, none⟩

def post (server : Server) (path : String) (fields : Json.Fields) : HttpRequest :=
  ⟨"POST", server.url path, some (.object fields)⟩

def optionsJson (options : ModelOptions) : Json :=
  .object [
    ("temperature", .float options.temperature),
    ("top_p", .float options.topP),
    ("num_predict", .int options.maxTokens)]

def pullRequest (server : Server) : HttpRequest :=
  server.post pullPath [("name", .string server.options.model)]

def generateRequest (server : Server) (prompt : Prompt) : HttpRequest :=
  server.post generatePath [
    ("model", .string server.options.model),
    ("prompt", .string prompt.user),
    ("system", .string prompt.system),
    ("stream", .bool false),
    ("options", optionsJson server.options)]

def chatRequest (server : Server) (messages : Json) : HttpRequest :=
  server.post chatPath [
    ("model", .string server.options.model),
    ("messages", messages),
    ("stream", .bool false),
    ("options", optionsJson server.options)]

/-! ## Fetching a model -/

def pullStatus (line : List Char) : Except Fault (Option Json) :=
  (Json.readAny line).map fun value? =>
    (value?.bind (·.field? "status")).filter Json.isTruthy

/-- What is noted of a fetch report, and the fault of the line that ends it early. -/
def pullLogs : List (List Char) → List Log.Line × Option Fault
  | [] => ([], none)
  | line :: rest =>
      match pullStatus line with
      | .error fault => ([], some fault)
      | .ok status? =>
          let (logs, fault?) := pullLogs rest
          (status?.toList.map (fun status => .info ("Pull: " ++ status.display)) ++ logs, fault?)

def unavailable (message : String) : Fault :=
  ⟨.backendUnavailable, some message, ""⟩

def pullFault (fault : Fault) : Fault :=
  if fault.kind = .http then unavailable ("Failed to pull model: " ++ fault.text) else fault

def pull (server : Server) (link : Link) : Outcome Link Unit :=
  let (link, answer) := exchange link server.pullRequest
  match answer >>= successBody with
  | .error fault => ⟨link, .error (pullFault fault), []⟩
  | .ok body =>
      match pullLogs (Text.streamLines (Text.decodeLenient body)) with
      | (logs, some fault) => ⟨link, .error fault, logs⟩
      | (logs, none) =>
          ⟨link, .ok (), logs ++
            [.info ("Model " ++ server.options.model ++ " pulled successfully")]⟩

/-! ## Waiting for the server -/

def family (server : Server) : String :=
  String.ofList (Text.cut ':' server.options.model.toList).1

def isOfFamily (server : Server) : Json → Bool
  | .object fields =>
      Text.contains ((Json.lookup? fields "name").getD (.string "")).display server.family
  | _ => false

def offers (server : Server) (fields : Json.Fields) : Bool :=
  match Json.lookup? fields "models" with
  | some (.array models) => models.any server.isOfFamily
  | _ => false

def checkFailed (fault : Fault) : Log.Line :=
  .debug ("Readiness check failed: " ++ fault.text)

/-- What comes of a fault while the server is asked whether it is ready: it is noted, or it ends
the waiting. -/
def notReady (link : Link) (logs : List Log.Line) (fault : Fault) : Outcome Link Bool :=
  if isMendable fault then ⟨link, .ok false, logs ++ [checkFailed fault]⟩
  else if fault.kind = .backendUnavailable then
    ⟨link, .ok false, logs ++ [.warning fault.text]⟩
  else ⟨link, .error fault, logs⟩

def fetch (server : Server) (link : Link) : Outcome Link Bool :=
  let missing := .info ("Model " ++ server.options.model ++ " not found, pulling...")
  let pulled := server.pull link
  match pulled.result with
  | .ok () => ⟨pulled.state, .ok true, missing :: pulled.logs⟩
  | .error fault => notReady pulled.state (missing :: pulled.logs) fault

/-- Asking once whether the server is ready, and having a missing model fetched. -/
def check (server : Server) (link : Link) : Outcome Link Bool :=
  let (link, answer) := exchange link (server.get tagsPath)
  match answer with
  | .error fault => notReady link [] fault
  | .ok (status, body) =>
      if !isSuccess status then ⟨link, .ok false, []⟩
      else
        match bodyFields tagsPath body with
        | .error fault => notReady link [] fault
        | .ok fields => if server.offers fields then ⟨link, .ok true, []⟩ else server.fetch link

def stoppedLog : Log.Line := .info "Stopped while waiting for Ollama"

def waitingLog (server : Server) (attempt : Nat) : Log.Line :=
  .info ("Waiting for Ollama... (" ++ intText attempt ++ "/" ++ intText server.maxRetries ++ ")")

/-- Asking up to `left` more times, the next time being the attempt of the given number. -/
def awaitFrom (server : Server) : Nat → Nat → Link → Outcome Link Unit
  | 0, _, link =>
      ⟨link, .error (unavailable "Ollama not available after maximum retries"), []⟩
  | left + 1, attempt, link =>
      let (link, isStopped) := link.look
      if isStopped then ⟨link, .ok (), [stoppedLog]⟩
      else
        let checked := server.check link
        match checked.result with
        | .error fault => ⟨checked.state, .error fault, checked.logs⟩
        | .ok true => ⟨checked.state, .ok (), checked.logs⟩
        | .ok false =>
            let waiting := checked.logs ++ [server.waitingLog attempt]
            match checked.state.pause server.retryDelay with
            | .error fault => ⟨checked.state, .error fault, waiting⟩
            | .ok (link, true) => ⟨link, .ok (), waiting ++ [stoppedLog]⟩
            | .ok (link, false) =>
                let rest := server.awaitFrom left (attempt + 1) link
                { rest with logs := waiting ++ rest.logs }

def await (server : Server) (link : Link) : Outcome Link Unit :=
  server.awaitFrom server.maxRetries.toNat 1 link

/-! ## Answers -/

def replaced (link : Link) (failure reason : String) : Outcome Link Json :=
  ⟨link, .ok (.string fallback), [.error (failure ++ ": " ++ reason)]⟩

/-- What keeps the body of a request from being sent, if anything does. -/
def unsent? (body : Json) : Option Fault :=
  if body.isFinite then
    match Json.write body with
    | .error fault => some fault
    | .ok _ => if body.isPlain then none else some ⟨.unicodeEncode, none, ""⟩
  else some ⟨.value, some "Out of range float values are not JSON compliant", ""⟩

/-- An answer that is to be read, unless there was a fault. Where the agent can go on without the
answer, it is replaced. -/
def settled (link : Link) (failure : String) : Except Fault Json → Outcome Link Json
  | .ok answer => ⟨link, .ok answer, []⟩
  | .error fault =>
      if isMendable fault then replaced link failure fault.text else ⟨link, .error fault, []⟩

/-- A request whose answer is read off the fields of an object, or replaced. -/
def ask (link : Link) (sent : HttpRequest) (path failure : String)
    (read : Json.Fields → Json) : Outcome Link Json :=
  match unsent? (sent.body.getD .null) with
  | some fault => settled link failure (.error fault)
  | none =>
      let (link, answer) := exchange link sent
      settled link failure ((answer >>= successBody >>= bodyFields path).map read)

def generate (server : Server) (link : Link) (prompt : Prompt) : Outcome Link Reply :=
  let asked := ask link (server.generateRequest prompt) generatePath "Generate error"
    (fieldOrEmpty · "response")
  ⟨asked.state, asked.result.map Reply.ofJson, asked.logs⟩

def contentOf (fields : Json.Fields) : Json :=
  match Json.lookup? fields "message" with
  | some (.object message) => fieldOrEmpty message "content"
  | _ => .string ""

def chat (server : Server) (link : Link) (messages : Json) : Outcome Link Json :=
  ask link (server.chatRequest messages) chatPath "Chat error" contentOf

def backend (server : Server) : Backend Link where
  ready := server.await
  generate := server.generate
  closes := true
  obstacle? := server.obstacle?

end Server

end Rulebound
