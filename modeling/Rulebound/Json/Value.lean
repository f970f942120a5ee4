import Rulebound.Number.Binary64
import Rulebound.Text.Encoding

/-!
# JSON values

Values as records, configurations and servers exchange them. Integers and floating-point numbers
stay apart, and an object keeps its fields in the order in which they were first given.
-/

namespace Rulebound

inductive Json where
  | null
  | bool (value : Bool)
  | int (value : Int)
  | float (value : Binary64)
  | string (value : CodeText)
  | array (items : List Json)
  | object (fields : List (CodeText × Json))
deriving Repr, Inhabited

namespace Json

/-- The fields of an object, in the order in which their names were first given. -/
abbrev Fields := List (CodeText × Json)

def lookup? (fields : Fields) (name : String) : Option Json :=
  (fields.find? (·.1 == .plain name)).map (·.2)

/-- Fields with a value given to a name: in its old place if it has one, else at the end. -/
def insert (fields : Fields) (name : CodeText) (value : Json) : Fields :=
  match fields with
  | [] => [(name, value)]
  | field :: rest =>
      if field.1 = name then (name, value) :: rest else field :: insert rest name value

def field? (value : Json) (name : String) : Option Json :=
  match value with
  | object fields => lookup? fields name
  | _ => none

/-- Whether a value counts as something: not null, false, zero or empty. -/
def isTruthy : Json → Bool
  | null => false
  | bool value => value
  | int value => value != 0
  | float value =>
      match value with
      | .finite _ units _ => units != 0
      | _ => true
  | string value => value != .plain ""
  | array items => !items.isEmpty
  | object fields => !fields.isEmpty

mutual

def isFinite : Json → Bool
  | float value => value.isFinite
  | array items => areFinite items
  | object fields => haveFinite fields
  | _ => true

def areFinite : List Json → Bool
  | [] => true
  | item :: rest => isFinite item && areFinite rest

def haveFinite : Fields → Bool
  | [] => true
  | (_, value) :: rest => isFinite value && haveFinite rest

end

mutual

/-- Whether all texts in a value are made of characters alone. -/
def isPlain : Json → Bool
  | string value => value.isPlain
  | array items => arePlain items
  | object fields => havePlain fields
  | _ => true

def arePlain : List Json → Bool
  | [] => true
  | item :: rest => isPlain item && arePlain rest

def havePlain : Fields → Bool
  | [] => true
  | (name, value) :: rest => name.isPlain && isPlain value && havePlain rest

end

def kindName : Json → String
  | null => "NoneType"
  | bool _ => "bool"
  | int _ => "int"
  | float _ => "float"
  | string _ => "str"
  | array _ => "list"
  | object _ => "dict"

/-- How deep lists and objects may lie within one another, where a value is read or written. It
depends on where that is done; there is always enough room for what an agent writes of itself. -/
class Nesting where
  deepest : Nat
  enough : 8 ≤ deepest

export Nesting (deepest)

/-- The room where little else is going on. -/
@[reducible]
def Nesting.usual : Nesting := ⟨990, by decide⟩

def ofText? : Option String → Json
  | some text => string text
  | none => null

def ofTexts (texts : List String) : Json :=
  array (texts.map fun text => string (.plain text))

end Json

end Rulebound
