import Rulebound.Json.Value
import Rulebound.Number.Reading
import Rulebound.Schema.Checked
import Rulebound.Schema.IntegerText

/-!
# Decoding JSON

Values of simple types from JSON. A number may be written in a string, and a truth value as a
number or a word; a string is only ever a string.
-/

namespace Rulebound.Decode

variable {α : Type}

def text : Json → Checked String
  | .string value => .good value.shown
  | _ => .fail .notString

def optional (decode : Json → Checked α) : Json → Checked (Option α)
  | .null => .good none
  | value => (decode value).map some

/-- What is read from the characters of a text, if none of them is an unpaired surrogate. -/
def whenPlain (text : CodeText) (read : List Char → Checked α) : Checked α :=
  match text with
  | .plain text => read text.toList
  | .broken .. => .fail .notUnicode

/-! ## Numbers in strings -/

/-- The number in a string; single low lines may stand within it. -/
def numberText? (text : List Char) : Option Binary64 :=
  match NumberText.number? (NumberText.unpad text) with
  | some x => some x
  | none => (IntegerText.dropLowLines? text).bind NumberText.number?

/-! ## Numbers -/

def ofTruth (value : Bool) : Int :=
  if value then 1 else 0

/-- Whether a number lies strictly between the ends of a machine word of 64 bits. -/
def isWithinWord (n : Int) : Bool :=
  -(pow2 63 : Int) < n && n < (pow2 63 : Int)

def whole (value : Binary64) : Checked Int :=
  match value, value.toInt? with
  | _, some n => if isWithinWord n then .good n else .fail .integerTooLong
  | .finite .., none => .fail .fractionalInteger
  | _, none => .fail .notFinite

def integer : Json → Checked Int
  | .int value => .good value
  | .bool value => .good (ofTruth value)
  | .float value => whole value
  | .string value => whenPlain value fun text =>
      match IntegerText.read text with
      | .read n => .good n
      | .tooLong => .fail .integerTooLong
      | .unread => .fail .unreadableInteger
  | _ => .fail .notInteger

/-- The number nearest to an integer, if the integer is in range. -/
def ofWhole (n : Int) : Checked Binary64 :=
  match Binary64.ofInt? n with
  | some x => .good x
  | none => .fail .notNumber

def number : Json → Checked Binary64
  | .float value => .good value
  | .bool value => .good (Binary64.ofInt (ofTruth value))
  | .int value => ofWhole value
  | .string value => whenPlain value fun text =>
      match numberText? text with
      | some x => .good x
      | none => .fail .unreadableNumber
  | _ => .fail .notNumber

/-- A value that is at least a bound. -/
def atLeast (holds : α → Bool) (checked : Checked α) : Checked α :=
  checked.andThen fun value => if holds value then .good value else .fail .belowMinimum

/-! ## Truth values -/

def truthWords : List (String × Bool) := [
  ("0", false), ("f", false), ("n", false), ("no", false), ("off", false), ("false", false),
  ("1", true), ("t", true), ("y", true), ("on", true), ("yes", true), ("true", true)]

/-- Whether an integer fits in a machine word, so that it is compared with zero and one. -/
def isWordSized (n : Int) : Bool :=
  isWithinWord n || n == -(pow2 63 : Int)

def ofInteger (n : Int) : Checked Bool :=
  if n = 0 then .good false
  else if n = 1 then .good true
  else if isWordSized n then .fail .unreadableBoolean
  else .fail .notBoolean

def truth : Json → Checked Bool
  | .bool value => .good value
  | .int value => ofInteger value
  | .float value =>
      match whole value with
      | .good n => ofInteger n
      | .bad _ => .fail .notBoolean
  | .string value => whenPlain value fun text =>
      match truthWords.find? (·.1 == String.ofList (text.map Char.toLower)) with
      | some (_, truth) => .good truth
      | none => .fail .unreadableBoolean
  | _ => .fail .notBoolean

/-! ## Lists and objects -/

def itemsFrom (decode : Json → Checked α) : Nat → List Json → List (Checked α)
  | _, [] => []
  | place, item :: rest =>
      (decode item).under (.index place) :: itemsFrom decode (place + 1) rest

def list (decode : Json → Checked α) : Json → Checked (List α)
  | .array items => Checked.all (itemsFrom decode 0 items)
  | _ => .fail .notList

/-- All items of a list where a fixed sequence is expected. -/
def tuple (decode : Json → Checked α) : Json → Checked (List α)
  | .array items => Checked.all (itemsFrom decode 0 items)
  | _ => .fail .notTuple

def object (decode : Json.Fields → Checked α) : Json → Checked α
  | .object fields => decode fields
  | _ => .fail .notModel

def required (fields : Json.Fields) (name : String) (decode : Json → Checked α) :
    Checked α :=
  match Json.lookup? fields name with
  | some value => (decode value).under (.field name)
  | none => (Checked.fail .missing).under (.field name)

def withDefault (fields : Json.Fields) (name : String) (decode : Json → Checked α)
    (value : α) : Checked α :=
  match Json.lookup? fields name with
  | some value => (decode value).under (.field name)
  | none => .good value

/-- The issue of a field that is not among those named. -/
def extraIssue? (names : List String) (field : CodeText × Json) : Option Issue :=
  if names.contains field.1.shown then none else some ⟨[.field field.1.shown], .extraForbidden⟩

/-- The value, if the object has no fields but those named; unknown fields come in their order. A
name with an unpaired surrogate is the only issue of its object. -/
def only (names : List String) (fields : Json.Fields) (checked : Checked α) : Checked α :=
  if fields.any (!·.1.isPlain) then .fail .notUnicode
  else checked.withIssues (fields.filterMap (extraIssue? names))

end Rulebound.Decode
