import Rulebound.Json.Reader
import Rulebound.Log
import Rulebound.Path
import Rulebound.Schema.Decode
import Rulebound.Text.Encoding

/-!
# Profiles

Who the agent is: its name, its goal, the rules it starts with and its personality. A profile is
read from a file; where that is not possible, the agent gets a default one, and the reason is
noted.
-/

namespace Rulebound

structure Profile where
  name : String := "Agent"
  goal : String := "Survive and explore the world"
  rules : List String := []
  personality : String := "A curious and helpful Minecraft bot"
deriving DecidableEq, Repr, Inhabited

namespace Profile

variable [Json.Nesting]

def toJson (profile : Profile) : Json :=
  .object [
    ("name", .string profile.name),
    ("goal", .string profile.goal),
    ("rules", .ofTexts profile.rules),
    ("personality", .string profile.personality)]

/-- A profile from its fields. Every field may be absent, and unknown fields are passed over. -/
def decode : Json → Checked Profile :=
  Decode.object fun fields =>
    let usual : Profile := {}
    Profile.mk <$> Decode.withDefault fields "name" Decode.text usual.name
      <*> Decode.withDefault fields "goal" Decode.text usual.goal
      <*> Decode.withDefault fields "rules" (Decode.list Decode.text) usual.rules
      <*> Decode.withDefault fields "personality" Decode.text usual.personality

/-! ## Reading the file -/

inductive Source where
  /-- No file was named. -/
  | unnamed
  /-- The file at a path cannot be opened. -/
  | unreadable (path : Path) (fault : Fault)
  /-- The bytes of the file at a path. -/
  | file (path : Path) (bytes : List UInt8)
deriving DecidableEq, Repr

structure Loaded where
  profile : Profile
  logs : List Log.Line
deriving DecidableEq, Repr

def notJson : Fault := ⟨.jsonDecode, some "the file is not JSON", ""⟩

def notUtf8 : Fault := ⟨.unicodeDecode, some "the file is not UTF-8", ""⟩

/-- The default profile under a name, noting why the file was of no use. -/
def fallback (path : Path) (name : String) (fault : Fault) : Loaded where
  profile := { name }
  logs := [.error ("Failed to load config from " ++ path.text ++ ": " ++ fault.text)]

/-- The profile in the text of a file. The given name counts if the file has no field for it. -/
def ofText (text : List Char) (name : String) : Except Fault Profile := do
  let value ←
    match Json.parse text with
    | .ok value => .ok value
    | .error .notJson => .error notJson
    | .error reason => .error reason.fault
  let profile ← (decode value).toExcept
  return if (value.field? "name").isSome then profile else { profile with name }

/-- Whether a fault of reading a profile is made up for by the default one. -/
def isCovered (fault : Fault) : Bool :=
  fault.kind.isSystem || fault.kind == .jsonDecode || fault.kind == .validation

/-- The profile of an agent, under a name to take where none is given. There is no fallback for
bytes that are no text, for a text that cannot be read to its end, nor for a path that is none. -/
def load (source : Source) (name : String) : Except Fault Loaded :=
  match source with
  | .unnamed => .ok ⟨{ name }, []⟩
  | .unreadable path fault =>
      if isCovered fault then .ok (fallback path name fault) else .error fault
  | .file path bytes =>
      match Text.decode? bytes with
      | none => .error notUtf8
      | some text =>
          match ofText text name with
          | .ok profile => .ok ⟨profile, []⟩
          | .error fault =>
              if isCovered fault then .ok (fallback path name fault) else .error fault

end Profile

end Rulebound
