/-!
# Code units and bytes

How characters stand as code units and as bytes, and how both are read again.
-/

namespace Rulebound

/-!
## Surrogates

Code units that stand for a character of the higher planes only in pairs: a high one, then a low
one. A unit without its partner stands for no character. A text that is read from JSON may hold such
units all the same; every other text is made of characters alone.
-/

namespace Text

def isHigh (unit : Nat) : Bool :=
  0xD800 ≤ unit && unit < 0xDC00

def isLow (unit : Nat) : Bool :=
  0xDC00 ≤ unit && unit < 0xE000

def isSurrogate (unit : Nat) : Bool :=
  isHigh unit || isLow unit

/-- Units with each surrogate pair made into one code point. -/
def pairUp : List Nat → List Nat
  | [] => []
  | [unit] => [unit]
  | high :: low :: rest =>
      if isHigh high && isLow low then
        (0x10000 + (high - 0xD800) * 0x400 + (low - 0xDC00)) :: pairUp rest
      else high :: pairUp (low :: rest)

def isBroken (points : List Nat) : Bool :=
  points.any isSurrogate && points.all (· < 0x110000)

/-- What is shown in the place of something that is no character. -/
def replacement : Char := '\ufffd'

end Text

/-- A text in JSON: one of characters alone, or the code points of one that is broken by unpaired
surrogates. -/
inductive CodeText where
  | plain (text : String)
  | broken (points : List Nat) (isBroken : Text.isBroken points = true)
deriving DecidableEq, Repr

namespace CodeText

instance : Inhabited CodeText := ⟨plain ""⟩

instance : Coe String CodeText := ⟨plain⟩

def points : CodeText → List Nat
  | plain text => text.toList.map Char.toNat
  | broken points _ => points

def ofPoints (points : List Nat) : CodeText :=
  if h : Text.isBroken points = true then broken points h
  else plain (String.ofList (points.map Char.ofNat))

def ofUnits (units : List Nat) : CodeText :=
  ofPoints (Text.pairUp units)

def isPlain : CodeText → Bool
  | plain _ => true
  | broken .. => false

def shown : CodeText → String
  | plain text => text
  | broken points _ =>
      String.ofList (points.map fun point =>
        if Text.isSurrogate point then Text.replacement else Char.ofNat point)

@[simp] theorem shown_plain (text : String) : (plain text).shown = text := rfl

end CodeText

namespace Text

/-!
## UTF-8

Writing characters as UTF-8, and reading bytes as UTF-8: strictly, where one wrong byte spoils the
whole, and leniently, where each longest wrong beginning of a character is read as one replacement
character.
-/

def encode (text : List Char) : List UInt8 :=
  text.flatMap String.utf8EncodeChar

/-- The bytes that may follow a first byte directly, and how many continuation bytes there are
in all; `none` if the byte starts no character. -/
def lead? (byte : Nat) : Option (Nat × Nat × Nat × Nat) :=
  if byte < 0x80 then some (0, byte, 0, 0)
  else if byte < 0xC2 then none
  else if byte < 0xE0 then some (1, byte - 0xC0, 0x80, 0xBF)
  else if byte = 0xE0 then some (2, 0, 0xA0, 0xBF)
  else if byte = 0xED then some (2, 0xD, 0x80, 0x9F)
  else if byte < 0xF0 then some (2, byte - 0xE0, 0x80, 0xBF)
  else if byte = 0xF0 then some (3, 0, 0x90, 0xBF)
  else if byte < 0xF4 then some (3, byte - 0xF0, 0x80, 0xBF)
  else if byte = 0xF4 then some (3, 4, 0x80, 0x8F)
  else none

inductive Utf8State where
  | between
  | within (missing value low high : Nat)

/-- The state after a byte that starts a character, and the character if that byte is all of it. -/
def startByte (byte : Nat) : Option (Utf8State × Option Char) :=
  (lead? byte).map fun (missing, value, low, high) =>
    if missing = 0 then (.between, some (Char.ofNat value))
    else (.within missing value low high, none)

/-- The state after a byte within a character; `none` if the byte cannot stand there. -/
def continueByte (missing value low high byte : Nat) : Option (Utf8State × Option Char) :=
  if low ≤ byte ∧ byte ≤ high then
    let value := 64 * value + byte % 64
    if missing ≤ 1 then some (.between, some (Char.ofNat value))
    else some (.within (missing - 1) value 0x80 0xBF, none)
  else none

def decodeAux : Utf8State → List UInt8 → Option (List Char)
  | .between, [] => some []
  | .within .., [] => none
  | state, byte :: rest =>
      let next :=
        match state with
        | .between => startByte byte.toNat
        | .within missing value low high => continueByte missing value low high byte.toNat
      match next with
      | none => none
      | some (state, read) => (decodeAux state rest).map (read.toList ++ ·)

/-- The characters that bytes stand for, if the bytes are UTF-8. -/
def decode? (bytes : List UInt8) : Option (List Char) :=
  decodeAux .between bytes

def decodeLenientAux : Utf8State → List UInt8 → List Char
  | .between, [] => []
  | .within .., [] => [replacement]
  | .between, byte :: rest =>
      match startByte byte.toNat with
      | none => replacement :: decodeLenientAux .between rest
      | some (state, read) => read.toList ++ decodeLenientAux state rest
  | .within missing value low high, byte :: rest =>
      match continueByte missing value low high byte.toNat with
      | some (state, read) => read.toList ++ decodeLenientAux state rest
      | none =>
          match startByte byte.toNat with
          | none => replacement :: replacement :: decodeLenientAux .between rest
          | some (state, read) => replacement :: read.toList ++ decodeLenientAux state rest

/-- The characters that bytes stand for, with a replacement character for what is no UTF-8. -/
def decodeLenient (bytes : List UInt8) : List Char :=
  decodeLenientAux .between bytes

end Text

namespace Text

/-!
## Encodings

How the characters of a text are written as bytes: in single bytes, in pairs or in fours, the more
or the less significant byte first. A mark at the front says which it is; without one, the zeros
among the first bytes show it in a text that begins with ASCII characters. An unpaired surrogate
is read as a replacement character.
-/

/-- How the characters of a text are written as bytes. -/
inductive Encoding where
  | utf8
  | utf16 (isBig : Bool)
  | utf32 (isBig : Bool)
deriving DecidableEq, Repr

namespace Encoding

/-- The marks of encodings. Where one begins with another, the longer one counts. -/
def marks : List (List UInt8 × Encoding) := [
  ([0x00, 0x00, 0xFE, 0xFF], .utf32 true),
  ([0xFF, 0xFE, 0x00, 0x00], .utf32 false),
  ([0xFE, 0xFF], .utf16 true),
  ([0xFF, 0xFE], .utf16 false),
  ([0xEF, 0xBB, 0xBF], .utf8)]

def ofZeros : List UInt8 → Encoding
  | [a, b] => if a = 0 then .utf16 true else if b = 0 then .utf16 false else .utf8
  | a :: b :: c :: d :: _ =>
      if a = 0 then (if b = 0 then .utf32 true else .utf16 true)
      else if b = 0 then (if c = 0 ∧ d = 0 then .utf32 false else .utf16 false)
      else .utf8
  | _ => .utf8

/-- The encoding of bytes, and the bytes after the mark. -/
def detect (bytes : List UInt8) : Encoding × List UInt8 :=
  match marks.find? fun mark => mark.1.isPrefixOf bytes with
  | some (mark, encoding) => (encoding, bytes.drop mark.length)
  | none => (ofZeros bytes, bytes)

def ofBytes (bytes : List UInt8) : Nat :=
  bytes.foldl (fun n byte => 256 * n + byte.toNat) 0

def unit (isBig : Bool) (bytes : List UInt8) : Nat :=
  ofBytes (if isBig then bytes else bytes.reverse)

def pairs? (isBig : Bool) : List UInt8 → Option (List Nat)
  | [] => some []
  | a :: b :: rest => (pairs? isBig rest).map (unit isBig [a, b] :: ·)
  | _ => none

/-- The units of four bytes each, if the bytes come in fours and every unit is a code point. -/
def fours? (isBig : Bool) : List UInt8 → Option (List Nat)
  | [] => some []
  | a :: b :: c :: d :: rest =>
      let point := unit isBig [a, b, c, d]
      if point < 0x110000 then (fours? isBig rest).map (point :: ·) else none
  | _ => none

/-- Bytes with a replacement character in the place of every surrogate. -/
def replaceSurrogates : List UInt8 → List UInt8
  | [] => []
  | 0xED :: b :: c :: rest =>
      if 0xA0 ≤ b ∧ b ≤ 0xBF ∧ 0x80 ≤ c ∧ c ≤ 0xBF then
        0xEF :: 0xBF :: 0xBD :: replaceSurrogates rest
      else 0xED :: replaceSurrogates (b :: c :: rest)
  | a :: rest => a :: replaceSurrogates rest

/-- The characters that bytes stand for, if they stand for any. -/
def decode? : Encoding → List UInt8 → Option (List Char)
  | utf8, bytes => Text.decode? (replaceSurrogates bytes)
  | utf16 isBig, bytes =>
      (pairs? isBig bytes).map fun units => (CodeText.ofUnits units).shown.toList
  | utf32 isBig, bytes =>
      (fours? isBig bytes).map fun points => (CodeText.ofPoints points).shown.toList

end Encoding

/-- The characters that bytes of any encoding stand for. -/
def decodeAny? (bytes : List UInt8) : Option (List Char) :=
  (Encoding.detect bytes).1.decode? (Encoding.detect bytes).2

end Text

end Rulebound
