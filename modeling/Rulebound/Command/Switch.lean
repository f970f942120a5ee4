import Rulebound.Text.Search

/-!
# Switches of the command line

What can be asked for on the command line, and how it is spelled.
-/

namespace Rulebound.Command

inductive Switch where
  | help
  | config
  | name
  | llm
  | modelId
  | ollamaHost
  | interval
  | ticks
  | logDir
  | showCycles
  | view
  | replay
  | runFolder
  | verbose
deriving DecidableEq, Repr, Inhabited

namespace Switch

def all : List Switch := [
  help, config, name, llm, modelId, ollamaHost, interval, ticks, logDir, showCycles, view, replay,
  runFolder, verbose]

def spellings : Switch → List String
  | help => ["-h", "--help"]
  | config => ["--config"]
  | name => ["--name"]
  | llm => ["--llm"]
  | modelId => ["--model-id"]
  | ollamaHost => ["--ollama-host"]
  | interval => ["--interval"]
  | ticks => ["--ticks"]
  | logDir => ["--log-dir"]
  | showCycles => ["--show-cycles"]
  | view => ["--view"]
  | replay => ["--replay"]
  | runFolder => ["--run-folder"]
  | verbose => ["--verbose"]

def takesValue : Switch → Bool
  | help | showCycles | view | replay | verbose => false
  | _ => true

def purpose : Switch → String
  | help => "show this help message and exit"
  | config => "Agent JSON config with name, goal, rules and personality."
  | name => "Agent name fallback."
  | llm => "LLM backend to use: fake, ollama, or mlx."
  | modelId => "Model ID for the backend."
  | ollamaHost => "Base URL of the Ollama server."
  | interval => "Seconds to wait between decision cycles."
  | ticks => "Number of decision cycles to run. Omit to run until stopped."
  | logDir => "Base directory for diary runs."
  | showCycles => "Render every thought cycle to the console."
  | view => "Tail the latest (or --run-folder) diary in the live viewer."
  | replay => "Print every cycle of the latest (or --run-folder) diary."
  | runFolder => "Run folder to view or replay (defaults to latest)."
  | verbose => "Log debug output."

/-- The name of a switch in messages: all its spellings. -/
def label (switch : Switch) : String :=
  Text.join "/" switch.spellings

def table : List (String × Switch) :=
  all.flatMap fun switch => switch.spellings.map fun spelling => (spelling, switch)

def ofSpelling? (text : List Char) : Option Switch :=
  table.lookup (String.ofList text)

def beginningWith (text : List Char) : List (String × Switch) :=
  table.filter fun entry => Text.startsWith text entry.1.toList

end Switch

end Rulebound.Command
