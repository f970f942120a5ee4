import Rulebound.Schema.Decode
import Rulebound.Text.Case

/-!
# Rules

What an operator demands of the agent. A rule of every kind but one has a scope: the action and
the target that its text names, if it names any.
-/

namespace Rulebound

/-- The action and the target that a rule is about; an absent one stands for all. -/
structure Scope where
  action : Option String
  target : Option String
deriving DecidableEq, Repr, Inhabited

/-- A rule with the text that it was read from. A guideline is shown to the model and never
enforced. -/
inductive Rule where
  | prohibition (scope : Scope) (text : String)
  | requirement (scope : Scope) (text : String)
  | restriction (scope : Scope) (text : String)
  | guideline (text : String)
deriving DecidableEq, Repr, Inhabited

inductive RuleKind where
  | prohibition
  | requirement
  | restriction
  | guideline
deriving DecidableEq, Repr, Inhabited

namespace RuleKind

def name : RuleKind → String
  | prohibition => "prohibition"
  | requirement => "requirement"
  | restriction => "restriction"
  | guideline => "guideline"

def ofName? (text : String) : Option RuleKind :=
  [prohibition, requirement, restriction, guideline].find? (·.name == text)

end RuleKind

namespace Rule

def kind : Rule → RuleKind
  | prohibition .. => .prohibition
  | requirement .. => .requirement
  | restriction .. => .restriction
  | guideline .. => .guideline

def text : Rule → String
  | prohibition _ text => text
  | requirement _ text => text
  | restriction _ text => text
  | guideline text => text

def scope : Rule → Scope
  | prohibition scope _ => scope
  | requirement scope _ => scope
  | restriction scope _ => scope
  | guideline _ => ⟨none, none⟩

def ofKind (kind : RuleKind) (scope : Scope) (text : String) : Rule :=
  match kind with
  | .prohibition => .prohibition scope text
  | .requirement => .requirement scope text
  | .restriction => .restriction scope text
  | .guideline => .guideline text

def toJson (rule : Rule) : Json :=
  match rule with
  | guideline text => .object [("kind", .string rule.kind.name), ("original_text", .string text)]
  | rule =>
      .object [
        ("action", .ofText? rule.scope.action),
        ("target", .ofText? rule.scope.target),
        ("original_text", .string rule.text),
        ("kind", .string rule.kind.name)]

def decodeKind (kind : RuleKind) : Json → Checked Unit
  | .string (.plain name) => if name = kind.name then .good () else .fail .notLiteral
  | .string (.broken ..) => .fail .notUnicode
  | _ => .fail .notLiteral

def decodeAs (kind : RuleKind) : Json → Checked Rule :=
  Decode.object fun fields =>
    let kindField := Decode.withDefault fields "kind" (decodeKind kind) ()
    let textField := Decode.required fields "original_text" Decode.text
    match kind with
    | .guideline =>
        Decode.only ["kind", "original_text"] fields
          ((fun _ text => .guideline text) <$> kindField <*> textField)
    | kind =>
        Decode.only ["action", "target", "original_text", "kind"] fields
          ((fun action target text _ => ofKind kind ⟨action, target⟩ text)
            <$> Decode.withDefault fields "action" (Decode.optional Decode.text) none
            <*> Decode.withDefault fields "target" (Decode.optional Decode.text) none
            <*> textField <*> kindField)

/-- A rule of the kind that the data names. -/
def decode : Json → Checked Rule
  | .object fields =>
      match Json.lookup? fields "kind" with
      | none => .fail .tagMissing
      | some (.string (.plain name)) =>
          match RuleKind.ofName? name with
          | some kind => (decodeAs kind (.object fields)).under (.field kind.name)
          | none => .fail .tagUnknown
      | some _ => .fail .tagUnknown
  | _ => .fail .notModelOrAttributes

end Rule

namespace Rule

/-!
## Compiling rules

The rule that an operator's text states. Its kind is decided by the first list of phrases of which
the text holds one, its scope by the verbs, categories and materials that it names.
-/

/-- The verbs that a rule can be about; the first one in this order wins. -/
def verbs : List String :=
  ["attack", "mine", "craft", "place", "chat", "goto", "move", "collect", "eat", "sleep", "trade",
    "steal", "grief"]

/-- The categories of targets, each with the phrases that name it; the first one wins. -/
def categories : List (String × List String) := [
  ("players", ["player", "players", "pvp", "other agents"]),
  ("mobs", ["mob", "mobs", "monster", "monsters", "hostile"]),
  ("passive", ["animal", "animals", "passive", "peaceful"]),
  ("blocks", ["block", "blocks", "ore", "ores"]),
  ("items", ["item", "items", "tool", "tools", "weapon", "weapons"])]

def materials : List String :=
  ["diamond", "iron", "gold", "coal", "wood", "stone", "dirt", "cobblestone", "oak", "birch",
    "spruce"]

/-- The kinds with the phrases that announce them; the first kind wins. -/
def announcements : List (RuleKind × List String) := [
  (.prohibition, ["cannot", "must not", "prohibited", "forbidden", "not allowed"]),
  (.requirement, ["must", "required", "always"]),
  (.restriction, ["only", "limit"])]

def holdsAny (text : String) (phrases : List String) : Bool :=
  phrases.any (Text.contains text)

def classify (text : String) : RuleKind :=
  match announcements.find? (fun kind => holdsAny (Text.lower text) kind.2) with
  | some (kind, _) => kind
  | none => .guideline

/-- Small ASCII letters and digits; materials are named by whole runs of them. -/
def isNameChar (c : Char) : Bool :=
  ('a' ≤ c && c ≤ 'z') || ('0' ≤ c && c ≤ '9')

/-- The first material, in their order, that stands at the front of a text and ends there. -/
def materialAtFront? (text : List Char) : Option String :=
  materials.find? fun material =>
    Text.startsWith material.toList text &&
      !((text.drop material.toList.length).head?.map isNameChar).getD false

/-- The first material that a text names; the first argument says whether a name character comes
before the text. -/
def firstMaterial? : Bool → List Char → Option String
  | _, [] => none
  | within, c :: rest =>
      match if within then none else materialAtFront? (c :: rest) with
      | some material => some material
      | none => firstMaterial? (isNameChar c) rest

def category? (text : String) : Option String :=
  (categories.find? fun category => holdsAny text category.2).map (·.1)

/-- The scope that a text names. A material wins over every category. -/
def scopeOf (text : String) : Scope :=
  let lowered := Text.lower text
  { action := verbs.find? (Text.contains lowered)
    target := (firstMaterial? false lowered.toList).or (category? lowered) }

def compile (text : String) : Rule :=
  ofKind (classify text) (scopeOf text) text

end Rule

end Rulebound
