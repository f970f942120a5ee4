import Rulebound.Backend
import Rulebound.Backend.Server
import Rulebound.Settings

/-!
# Local models, and the choice of a backend

The backend that settings name: a model server, a local model, or the usual script.
-/

namespace Rulebound

/-!
## Local models

A backend that runs a model in a library on the same machine. The library may be missing. The
model is loaded once, when it is first needed; a load that fails is tried again the next time.
-/

structure Completion where
  prompt : String
  maxTokens : Int
  temperature : Binary64
  topP : Binary64
deriving DecidableEq, Repr, Inhabited

structure ModelLibrary where
  /-- Whether a model can be loaded. -/
  load : String → Except Fault Unit
  /-- How the loaded model wants a prompt to be written, if it says so. -/
  template? : Option (Prompt → String)
  /-- The text that completes a prompt, given how many were completed before. -/
  complete : Completion → Nat → String

structure LocalModel where
  options : ModelOptions
  library? : Option ModelLibrary

namespace LocalModel

structure State where
  loaded : Bool := false
  /-- The models that the library was asked to load. -/
  loads : List String := []
  completions : List Completion := []
deriving DecidableEq, Repr, Inhabited

def missingLibrary : Fault :=
  ⟨.moduleMissing, some "No module named 'mlx_lm'", ""⟩

/-- Whether a fault says that the library or the model cannot be had. -/
def isAbsence (fault : Fault) : Bool :=
  fault.kind == .moduleMissing || fault.kind.isSystem

def loadFault (model : LocalModel) (fault : Fault) : Fault :=
  if isAbsence fault then
    ⟨.backendUnavailable, some ("Could not load " ++ model.options.model ++ ": " ++ fault.text), ""⟩
  else fault

def ready (model : LocalModel) (state : State) : Outcome State Unit :=
  if state.loaded then ⟨state, .ok (), []⟩
  else
    match model.library? with
    | none => ⟨state, .error (model.loadFault missingLibrary), []⟩
    | some library =>
        let tried := { state with loads := state.loads ++ [model.options.model] }
        match library.load model.options.model with
        | .ok () => ⟨{ tried with loaded := true }, .ok (), []⟩
        | .error fault => ⟨tried, .error (model.loadFault fault), []⟩

/-- A prompt as the model wants it, or its two parts one after the other. -/
def promptText (library : ModelLibrary) (prompt : Prompt) : String :=
  match library.template? with
  | some write => write prompt
  | none => prompt.system ++ "\n\n" ++ prompt.user ++ "\n"

def generate (model : LocalModel) (state : State) (prompt : Prompt) : Outcome State Reply :=
  match model.library? with
  | none => ⟨state, .error missingLibrary, []⟩
  | some library =>
      let readied := model.ready state
      match readied.result with
      | .error fault => ⟨readied.state, .error fault, []⟩
      | .ok () =>
          let options := model.options
          let completion : Completion :=
            ⟨promptText library prompt, options.maxTokens, options.temperature, options.topP⟩
          let count := readied.state.completions.length
          ⟨{ readied.state with completions := readied.state.completions ++ [completion] },
            .ok (.text (library.complete completion count)), []⟩

def backend (model : LocalModel) : Backend State where
  ready := model.ready
  generate := model.generate

end LocalModel

/-!
## Choosing a backend

The backend that settings name: a model server, a local model, or the usual script, which also
stands in for every name that is not known.
-/

inductive BackendChoice where
  | script
  | server (server : Server)
  | localModel (options : ModelOptions)
deriving Repr, Inhabited

namespace BackendChoice

variable [Json.Nesting]

def usualLocalModel : String := "mlx-community/Meta-Llama-3.1-8B-Instruct-4bit"

def ofSettings (settings : Settings) : BackendChoice :=
  let name := Text.lower settings.backend
  if name = "ollama" then .server { options := { model := settings.model }, host := settings.host }
  else if name = "mlx" then
    .localModel {
      model := if settings.model = ({} : Settings).model then usualLocalModel else settings.model }
  else .script

inductive State where
  | script (script : Script)
  | server (link : Link)
  | localModel (state : LocalModel.State)

def start (choice : BackendChoice) (link : Link) : State :=
  match choice with
  | script => .script Script.usual
  | server _ => .server link
  | localModel _ => .localModel {}

/-- An outcome of one kind of backend as an outcome of any. -/
def lift {γ α : Type} (wrap : γ → State) (outcome : Outcome γ α) : Outcome State α :=
  ⟨wrap outcome.state, outcome.result, outcome.logs⟩

/-- A script as a chosen backend. A state of another kind of backend is left alone. -/
def scriptBackend : Backend State where
  ready := fun
    | .script state => lift .script (Script.backend.ready state)
    | state => ⟨state, .ok (), []⟩
  generate := fun
    | .script state, prompt => lift .script (Script.backend.generate state prompt)
    | state, _ => ⟨state, .ok .nothing, []⟩

def serverBackend (chosen : Server) : Backend State where
  ready := fun
    | .server link => lift .server (chosen.await link)
    | state => ⟨state, .ok (), []⟩
  generate := fun
    | .server link, prompt => lift .server (chosen.generate link prompt)
    | state, _ => ⟨state, .ok .nothing, []⟩
  closes := true
  obstacle? := chosen.obstacle?

def localBackend (model : LocalModel) : Backend State where
  ready := fun
    | .localModel state => lift .localModel (model.ready state)
    | state => ⟨state, .ok (), []⟩
  generate := fun
    | .localModel state, prompt => lift .localModel (model.generate state prompt)
    | state, _ => ⟨state, .ok .nothing, []⟩

def backend (choice : BackendChoice) (library? : Option ModelLibrary) : Backend State :=
  match choice with
  | script => scriptBackend
  | server chosen => serverBackend chosen
  | localModel options => localBackend ⟨options, library?⟩

end BackendChoice

end Rulebound
