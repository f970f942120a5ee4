import Rulebound.Fault
import Rulebound.Json.Value
import Rulebound.Number.Decimal
import Rulebound.Text.Quoted
import Rulebound.Text.Search

/-!
# Writing JSON

How a value is shown inside a message, and the text that it is written as.
-/

namespace Rulebound.Json

/-!
## Values in messages

How a JSON value is shown inside a message: a text as it is, and in quotes when it stands within a
list or an object.
-/

mutual

def nested : Json → List Char
  | null => "None".toList
  | bool value => (if value then "True" else "False").toList
  | int value => intChars value
  | float value => value.text.toList
  | string value => Text.quotePoints value.points
  | array items => '[' :: nestedItems items ++ [']']
  | object fields => '\x7b' :: nestedFields fields ++ ['\x7d']

def nestedItems : List Json → List Char
  | [] => []
  | [item] => nested item
  | item :: next :: rest => nested item ++ ", ".toList ++ nestedItems (next :: rest)

def nestedFields : Fields → List Char
  | [] => []
  | [(name, value)] => Text.quotePoints name.points ++ ": ".toList ++ nested value
  | (name, value) :: next :: rest =>
      Text.quotePoints name.points ++ ": ".toList ++ nested value ++ ", ".toList ++
        nestedFields (next :: rest)

end

def display : Json → String
  | string value => value.shown
  | value => String.ofList (nested value)

/-!
## Writing JSON

A value is written on one line in ASCII: a comma and a blank between items, a colon and a blank
after a name, and every character beyond printable ASCII as an escape. An integer of too many
digits, or a list or an object too deep within others, keeps the whole value from being written.
-/

def unitEscape (unit : Nat) : List Char :=
  '\\' :: 'u' :: Text.hexChars 4 unit

/-- A code point inside a written string; one beyond the basic plane is a surrogate pair. -/
def printPoint (point : Nat) : List Char :=
  if point = 0x22 then ['\\', '"']
  else if point = 0x5C then ['\\', '\\']
  else if point = 0x0A then ['\\', 'n']
  else if point = 0x0D then ['\\', 'r']
  else if point = 0x09 then ['\\', 't']
  else if point = 0x08 then ['\\', 'b']
  else if point = 0x0C then ['\\', 'f']
  else if 0x20 ≤ point ∧ point ≤ 0x7E then [Char.ofNat point]
  else if point < 0x10000 then unitEscape point
  else
    unitEscape (0xD800 + (point - 0x10000) / 0x400) ++
      unitEscape (0xDC00 + (point - 0x10000) % 0x400)

def printString (text : CodeText) : List Char :=
  '"' :: text.points.flatMap printPoint ++ ['"']

mutual

def print : Json → List Char
  | null => "null".toList
  | bool value => (if value then "true" else "false").toList
  | int value => intChars value
  | float value => value.recordChars
  | string value => printString value
  | array items => '[' :: printItems items ++ [']']
  | object fields => '\x7b' :: printFields fields ++ ['\x7d']

def printItems : List Json → List Char
  | [] => []
  | [item] => print item
  | item :: next :: rest => print item ++ ", ".toList ++ printItems (next :: rest)

def printFields : Fields → List Char
  | [] => []
  | [(name, value)] => printString name ++ ": ".toList ++ print value
  | (name, value) :: next :: rest =>
      printString name ++ ": ".toList ++ print value ++ ", ".toList ++ printFields (next :: rest)

end

/-! ## Values that cannot be written -/

inductive Unwritable where
  | longInteger
  | tooDeep
deriving DecidableEq, Repr

def Unwritable.fault : Unwritable → Fault
  | longInteger => .unshownInteger
  | tooDeep =>
      ⟨.recursion, some "maximum recursion depth exceeded while encoding a JSON object", ""⟩

def unwritableInt? (value : Int) : Option Unwritable :=
  if IsShort value then none else some .longInteger

mutual

/-- The first thing that keeps a value from being written, where there is room for so many levels
of nesting. -/
def unwritable? : Nat → Json → Option Unwritable
  | _, int value => unwritableInt? value
  | 0, array _ => some .tooDeep
  | room + 1, array items => unwritableItem? room items
  | 0, object _ => some .tooDeep
  | room + 1, object fields => unwritableField? room fields
  | _, _ => none

def unwritableItem? : Nat → List Json → Option Unwritable
  | _, [] => none
  | room, item :: rest => (unwritable? room item).or (unwritableItem? room rest)

def unwritableField? : Nat → Fields → Option Unwritable
  | _, [] => none
  | room, (_, value) :: rest => (unwritable? room value).or (unwritableField? room rest)

end

def write [Nesting] (value : Json) : Except Fault (List Char) :=
  match unwritable? deepest value with
  | some reason => .error reason.fault
  | none => .ok (print value)

def line (value : Json) : String :=
  String.ofList (print value)

end Rulebound.Json
