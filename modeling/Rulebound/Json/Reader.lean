import Rulebound.Fault
import Rulebound.Json.Value
import Rulebound.Number.Decimal

/-!
# Reading JSON

A text is read as one value with blanks around it. A number without a point and an exponent is an
integer; names for infinity and for no number are numbers too. A repeated name keeps its first
place and its last value. An integer of too many digits, or a list or an object too deep within
others, ends the reading where it is met, whatever comes after it.
-/

namespace Rulebound.Json

inductive Unreadable where
  | notJson
  | longInteger (size : Nat)
  | deepArray
  | deepObject
deriving DecidableEq, Repr

namespace Unreadable

def deepMessage (kind : String) : String :=
  "maximum recursion depth exceeded while decoding a JSON " ++ kind ++ " from a unicode string"

def fault : Unreadable → Fault
  | notJson => ⟨.jsonDecode, none, ""⟩
  | longInteger size => Fault.longInteger size
  | deepArray => ⟨.recursion, some (deepMessage "array"), ""⟩
  | deepObject => ⟨.recursion, some (deepMessage "object"), ""⟩

end Unreadable

def orNotJson {α : Type} : Option α → Except Unreadable α
  | some value => .ok value
  | none => .error .notJson

def isSpace (c : Char) : Bool :=
  c == ' ' || c == '\t' || c == '\n' || c == '\r'

def skipSpace (text : List Char) : List Char :=
  text.dropWhile isSpace

def afterWord? : List Char → List Char → Option (List Char)
  | [], text => some text
  | _ :: _, [] => none
  | w :: word, c :: text => if w = c then afterWord? word text else none

/-! ## Strings -/

def hexValue? (c : Char) : Option Nat :=
  if '0' ≤ c ∧ c ≤ '9' then some (c.toNat - 0x30)
  else if 'a' ≤ c ∧ c ≤ 'f' then some (c.toNat - 0x61 + 10)
  else if 'A' ≤ c ∧ c ≤ 'F' then some (c.toNat - 0x41 + 10)
  else none

def unit? (a b c d : Char) : Option Nat := do
  let a ← hexValue? a
  let b ← hexValue? b
  let c ← hexValue? c
  let d ← hexValue? d
  return 4096 * a + 256 * b + 16 * c + d

def escaped? (c : Char) : Option Nat :=
  if c = '"' ∨ c = '\\' ∨ c = '/' then some c.toNat
  else if c = 'b' then some 0x08
  else if c = 'f' then some 0x0C
  else if c = 'n' then some 0x0A
  else if c = 'r' then some 0x0D
  else if c = 't' then some 0x09
  else none

/-- The units of a string up to its closing quote, and the text after the quote. -/
def stringBody : List Char → Option (List Nat × List Char)
  | [] => none
  | '"' :: rest => some ([], rest)
  | '\\' :: 'u' :: a :: b :: c :: d :: rest => do
      let unit ← unit? a b c d
      let (units, after) ← stringBody rest
      return (unit :: units, after)
  | '\\' :: c :: rest => do
      let unit ← escaped? c
      let (units, after) ← stringBody rest
      return (unit :: units, after)
  | c :: rest =>
      if c = '\\' ∨ c.toNat < 0x20 then none
      else do
        let (units, after) ← stringBody rest
        return (c.toNat :: units, after)

/-! ## Numbers -/

def isDigit (c : Char) : Bool :=
  (asciiDigit? c).isSome

def takeDigits (text : List Char) : List Nat × List Char :=
  ((text.takeWhile isDigit).filterMap asciiDigit?, text.dropWhile isDigit)

/-- The digits before the point: a lone zero, or digits that do not begin with one. -/
def wholePart? : List Char → Option (List Nat × List Char)
  | [] => none
  | '0' :: rest => some ([0], rest)
  | c :: rest => if isDigit c then some (takeDigits (c :: rest)) else none

def fractionPart : List Char → Option (List Nat × List Char)
  | '.' :: rest =>
      match takeDigits rest with
      | ([], _) => none
      | found => some found
  | _ => none

def exponentPart : List Char → Option (Int × List Char)
  | [] => none
  | c :: rest =>
      if c = 'e' ∨ c = 'E' then
        let (negative, rest) :=
          match rest with
          | '-' :: rest => (true, rest)
          | '+' :: rest => (false, rest)
          | rest => (false, rest)
        match takeDigits rest with
        | ([], _) => none
        | (digits, rest) =>
            some (if negative then -(ofDigits digits : Int) else ofDigits digits, rest)
      else none

def ofWhole (negative : Bool) (whole : List Nat) : Except Unreadable Json :=
  if longestInteger < whole.length then .error (.longInteger whole.length)
  else .ok (int (if negative then -(ofDigits whole : Int) else ofDigits whole))

def unsigned (negative : Bool) (text : List Char) : Except Unreadable (Json × List Char) := do
  let (whole, rest) ← orNotJson (wholePart? text)
  match fractionPart rest, exponentPart rest with
  | none, none => return (← ofWhole negative whole, rest)
  | none, some (exponent, rest) =>
      return (float (Decimal.toBinary64 negative ⟨whole, exponent + whole.length⟩), rest)
  | some (fraction, rest), _ =>
      let (exponent, rest) := (exponentPart rest).getD (0, rest)
      return (float (Decimal.toBinary64 negative ⟨whole ++ fraction, exponent + whole.length⟩),
        rest)

/-- A number at the front of a text, and the text after it. -/
def number (text : List Char) : Except Unreadable (Json × List Char) :=
  match afterWord? "NaN".toList text with
  | some rest => .ok (float .nan, rest)
  | none =>
      let (negative, rest) :=
        match text with
        | '-' :: rest => (true, rest)
        | text => (false, text)
      match afterWord? "Infinity".toList rest with
      | some rest => .ok (float (.infinite negative), rest)
      | none => unsigned negative rest

/-! ## Values -/

/-- One level further in, or the reason why there is none. -/
def inward (reason : Unreadable) : Nat → Except Unreadable Nat
  | 0 => .error reason
  | room + 1 => .ok room

mutual

/-- The value at the front of a text, and the text after it. There is room for so many levels of
nesting; the fuel bounds the number of items as well. -/
def readValue : Nat → Nat → List Char → Except Unreadable (Json × List Char)
  | 0, _, _ => .error .notJson
  | fuel + 1, room, text =>
      match text with
      | [] => .error .notJson
      | '"' :: rest => do
          let (units, rest) ← orNotJson (stringBody rest)
          return (string (.ofUnits units), rest)
      | '[' :: rest => do
          let room ← inward .deepArray room
          match skipSpace rest with
          | ']' :: rest => return (array [], rest)
          | rest =>
              let (items, rest) ← readItems fuel room rest
              return (array items, rest)
      | c :: rest =>
          if c = '\x7b' then do
            let room ← inward .deepObject room
            match skipSpace rest with
            | [] => .error .notJson
            | c :: rest =>
                if c = '\x7d' then return (object [], rest)
                else
                  let (fields, rest) ← readFields fuel room [] (c :: rest)
                  return (object fields, rest)
          else
            match afterWord? "null".toList text, afterWord? "true".toList text,
                afterWord? "false".toList text with
            | some rest, _, _ => .ok (null, rest)
            | _, some rest, _ => .ok (bool true, rest)
            | _, _, some rest => .ok (bool false, rest)
            | none, none, none => number text

def readItems : Nat → Nat → List Char → Except Unreadable (List Json × List Char)
  | 0, _, _ => .error .notJson
  | fuel + 1, room, text => do
      let (item, rest) ← readValue fuel room text
      match skipSpace rest with
      | ',' :: rest =>
          let (items, rest) ← readItems fuel room (skipSpace rest)
          return (item :: items, rest)
      | ']' :: rest => return ([item], rest)
      | _ => .error .notJson

/-- The fields of an object from a name on, added to those before, and the text after its end. -/
def readFields : Nat → Nat → Fields → List Char → Except Unreadable (Fields × List Char)
  | 0, _, _, _ => .error .notJson
  | fuel + 1, room, before, text =>
      match text with
      | '"' :: rest => do
          let (units, rest) ← orNotJson (stringBody rest)
          match skipSpace rest with
          | ':' :: rest =>
              let (value, rest) ← readValue fuel room (skipSpace rest)
              let fields := insert before (.ofUnits units) value
              match skipSpace rest with
              | [] => .error .notJson
              | c :: rest =>
                  if c = ',' then readFields fuel room fields (skipSpace rest)
                  else if c = '\x7d' then return (fields, rest)
                  else .error .notJson
          | _ => .error .notJson
      | _ => .error .notJson

end

def parseWithin (room : Nat) (text : List Char) : Except Unreadable Json := do
  let (value, rest) ← readValue (text.length + 1) room (skipSpace text)
  if (skipSpace rest).isEmpty then .ok value else .error .notJson

def parse [Nesting] (text : List Char) : Except Unreadable Json :=
  parseWithin deepest text

/-- The value that a text is, or the fault of one that is none. -/
def read [Nesting] (text : String) : Except Fault Json :=
  (parse text.toList).mapError Unreadable.fault

/-- The value that a text is, if it is JSON at all. -/
def readAny [Nesting] (text : List Char) : Except Fault (Option Json) :=
  match parse text with
  | .ok value => .ok (some value)
  | .error .notJson => .ok none
  | .error reason => .error reason.fault

end Rulebound.Json
