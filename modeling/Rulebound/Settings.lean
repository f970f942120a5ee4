import Rulebound.Log
import Rulebound.Number.Reading
import Rulebound.Path
import Rulebound.Schema.Decode
import Rulebound.Text.Case
import Rulebound.Text.Quoted

/-!
# Settings

How a run is set up. What the operator asks for wins over the environment, and the environment
wins over the defaults; an empty text counts as nothing.
-/

namespace Rulebound

structure Settings where
  profilePath : Option Path := none
  agentName : String := "Agent"
  backend : String := "fake"
  model : String := "llama3.1:8b"
  host : String := "http://localhost:11434"
  /-- Seconds between turns. -/
  interval : Binary64 := 15
  logFolder : Path := .ofText "logs"
  /-- How many turns to take; without it, turns are taken until the run is stopped. -/
  turns : Option Int := none
deriving DecidableEq, Repr, Inhabited

namespace Settings

def ofPath? : Option Path → Json
  | some path => .string path.text
  | none => .null

def toJson (settings : Settings) : Json :=
  .object [
    ("agent_config_path", ofPath? settings.profilePath),
    ("agent_name", .string settings.agentName),
    ("llm_backend", .string settings.backend),
    ("model_id", .string settings.model),
    ("ollama_host", .string settings.host),
    ("decision_interval", .float settings.interval),
    ("log_dir", .string settings.logFolder.text),
    ("ticks", match settings.turns with
      | some turns => .int turns
      | none => .null)]

/-! ## Checking -/

def decodePath : Json → Checked Path
  | .string text => .good (.ofText text.shown)
  | _ => .fail .notPath

def isInterval (x : Binary64) : Bool :=
  (0 : Binary64).le x

def isCount (n : Int) : Bool :=
  1 ≤ n

def decodeInterval (value : Json) : Checked Binary64 :=
  Decode.atLeast isInterval (Decode.number value)

def decodeTurns (value : Json) : Checked Int :=
  Decode.atLeast isCount (Decode.integer value)

def decode : Json → Checked Settings :=
  Decode.object fun fields =>
    let usual : Settings := {}
    Decode.only ["agent_config_path", "agent_name", "llm_backend", "model_id", "ollama_host",
        "decision_interval", "log_dir", "ticks"] fields
      (Settings.mk
        <$> Decode.withDefault fields "agent_config_path" (Decode.optional decodePath)
          usual.profilePath
        <*> Decode.withDefault fields "agent_name" Decode.text usual.agentName
        <*> Decode.withDefault fields "llm_backend" Decode.text usual.backend
        <*> Decode.withDefault fields "model_id" Decode.text usual.model
        <*> Decode.withDefault fields "ollama_host" Decode.text usual.host
        <*> Decode.withDefault fields "decision_interval" decodeInterval usual.interval
        <*> Decode.withDefault fields "log_dir" decodePath usual.logFolder
        <*> Decode.withDefault fields "ticks" (Decode.optional decodeTurns) usual.turns)

/-! ## Putting settings together -/

/-- What the operator asks for. Numbers are as they were given. -/
structure Request where
  profilePath : Option Path := none
  agentName : Option String := none
  backend : Option String := none
  model : Option String := none
  host : Option String := none
  interval : Option Json := none
  logFolder : Option Path := none
  turns : Option Json := none
deriving Repr, Inhabited

abbrev Environment := String → Option String

def present? (text : Option String) : Option String :=
  text.filter (· != "")

def choose (asked inherited : Option String) (usual : String) : String :=
  ((present? asked).or (present? inherited)).getD usual

/-- What an interval in the environment comes to: the interval, if it can be used, and what is
noted if it cannot. -/
def readInterval (text : Option String) : Option Binary64 × List Log.Line :=
  match present? text with
  | none => (none, [])
  | some text =>
      let shown := "CRAFTMIND_DECISION_INTERVAL=" ++ Text.quoted text
      match Binary64.read? text with
      | none => (none, [.warning ("Ignoring " ++ shown ++ ": not a number")])
      | some x =>
          if x.isFinite && isInterval x then (some x, [])
          else (none, [.warning ("Ignoring invalid " ++ shown)])

/-- The environment's interval, read only if the operator asks for none. -/
def environmentInterval (request : Request) (environment : Environment) :
    Option Binary64 × List Log.Line :=
  if request.interval.isSome then (none, [])
  else readInterval (environment "CRAFTMIND_DECISION_INTERVAL")

def resolve (request : Request) (environment : Environment) : Checked Settings :=
  let usual : Settings := {}
  let inherited := ((environmentInterval request environment).1).getD usual.interval
  let folder := (present? (environment "CRAFTMIND_LOG_DIR")).map Path.ofText
  let profilePath := (present? (environment "CRAFTMIND_AGENT_CONFIG")).map Path.ofText
  (fun interval turns => {
    profilePath := request.profilePath.or profilePath
    agentName := choose request.agentName (environment "CRAFTMIND_AGENT_NAME") usual.agentName
    backend := Text.lower (choose request.backend (environment "CRAFTMIND_LLM") usual.backend)
    model := choose request.model (environment "CRAFTMIND_MODEL_ID") usual.model
    host := choose request.host (environment "CRAFTMIND_OLLAMA_HOST") usual.host
    interval
    logFolder := (request.logFolder.or folder).getD usual.logFolder
    turns })
  <$> (decodeInterval (request.interval.getD (.float inherited))).under (.field "decision_interval")
  <*> (Decode.optional decodeTurns (request.turns.getD .null)).under (.field "ticks")

def resolveLogs (request : Request) (environment : Environment) : List Log.Line :=
  (environmentInterval request environment).2

end Settings

end Rulebound
