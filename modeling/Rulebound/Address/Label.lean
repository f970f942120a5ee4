import Rulebound.Address.Letter
import Rulebound.Text.Search

/-!
# Labels of hosts

The parts of the name of a host. A part in another script is spelled in ASCII.
-/

namespace Rulebound.Punycode

/-!
## Punycode

A text of any script in letters, digits and hyphens. The ASCII characters come first; then, for
each other character in the order of their code points, how far it lies beyond the one before,
counted over the places where it might stand. Distances are numbers of variable length to the base
36, whose digits adapt to the sizes met so far.
-/

/-- The character of a digit below 36: the letters first, then the figures. -/
def digitChar (digit : Nat) : Char :=
  Char.ofNat (if digit < 26 then 0x61 + digit else 0x30 + (digit - 26))

/-- The least digit that does not end a number, in its `place` over 36: how far the place lies
beyond the bias, between one and 26. -/
def threshold (bias place : Nat) : Nat :=
  max 1 (min 26 (place - bias))

theorem threshold_mem (bias place : Nat) :
    1 ≤ threshold bias place ∧ threshold bias place ≤ 26 := by
  unfold threshold
  omega

/-- The digits of a distance from a place on, the least of them first. -/
def distanceChars (bias place distance : Nat) : List Char :=
  let least := threshold bias place
  if distance < least then [digitChar distance]
  else
    digitChar (least + (distance - least) % (36 - least)) ::
      distanceChars bias (place + 36) ((distance - least) / (36 - least))
termination_by distance
decreasing_by
  have := threshold_mem bias place
  have := Nat.div_le_self (distance - threshold bias place) (36 - threshold bias place)
  omega

def shrink (distance place : Nat) : Nat × Nat :=
  if 455 < distance then shrink (distance / 35) (place + 36) else (distance, place)
termination_by distance
decreasing_by exact Nat.div_lt_self (by omega) (by omega)

/-- The bias after a distance to the character that makes `count` characters. -/
def adapt (distance count : Nat) (isFirst : Bool) : Nat :=
  let start := if isFirst then distance / 700 else distance / 2
  let (rest, place) := shrink (start + start / count) 0
  place + 36 * rest / (rest + 38)

structure State where
  distance : Nat := 0
  bias : Nat := 72
  /-- How many characters were written. -/
  count : Nat
  written : List Char := []

/-- The state after a character of the text has been looked at for a code point. -/
def look (asciiCount point : Nat) (state : State) (c : Char) : State :=
  if c.toNat < point then { state with distance := state.distance + 1 }
  else if c.toNat = point then {
    distance := 0
    bias := adapt state.distance (state.count + 1) (state.count == asciiCount)
    count := state.count + 1
    written := state.written ++ distanceChars state.bias 36 state.distance }
  else state

/-- The state after all given code points, the least of which is at least `next`. -/
def writeFrom (text : List Char) (asciiCount : Nat) : List Nat → Nat → State → State
  | [], _, state => state
  | point :: rest, next, state =>
      let reached := { state with distance := state.distance + (point - next) * (state.count + 1) }
      let looked := text.foldl (look asciiCount point) reached
      writeFrom text asciiCount rest (point + 1) { looked with distance := looked.distance + 1 }

def pointsBeyond (text : List Char) : List Nat :=
  (((text.map Char.toNat).filter (128 ≤ ·)).eraseDups).mergeSort fun a b => decide (a ≤ b)

def encode (text : List Char) : List Char :=
  let ascii := text.filter fun c => c.toNat < 128
  let beyond := writeFrom text ascii.length (pointsBeyond text) 128 { count := ascii.length }
  ascii ++ (if ascii.isEmpty then [] else ['-']) ++ beyond.written

end Rulebound.Punycode

namespace Rulebound.Address.Label

/-!
## Labels

The parts of an international name between its points. A label that is not in ASCII is written in
it under a sign of its own, if its characters may stand in a name, each where it does.
-/

/-! ## Places -/

def isGreek (c : Char) : Bool :=
  Text.inRanges [(0x370, 0x3E1), (0x3F0, 0x3FF), (0x1D26, 0x1D2A), (0x1F00, 0x1FFE)] c

def isHebrew (c : Char) : Bool :=
  Text.inRanges [(0x591, 0x5F4)] c

def isJapanese (c : Char) : Bool :=
  Text.inRanges [(0x3005, 0x3005), (0x3007, 0x3007), (0x3041, 0x3096), (0x309D, 0x309F),
    (0x30A1, 0x30FA), (0x30FD, 0x30FF), (0x31F0, 0x31FF), (0x3400, 0x4DBF), (0x4E00, 0x9FFF),
    (0xF900, 0xFAD9), (0x1B000, 0x1B167), (0x20000, 0x323AF)] c

/-- The figures of two scripts that do not stand in one label. -/
def isEasternFigure (c : Char) : Bool :=
  Text.inRanges [(0x660, 0x669)] c

def isFarsiFigure (c : Char) : Bool :=
  Text.inRanges [(0x6F0, 0x6F9)] c

def isJoiner (c : Char) : Bool :=
  Text.inRanges [(0x200C, 0x200D)] c

/-- Whether a character of a label may stand between the one before it and the one after it. -/
def isPlaced (label : List Char) (before : Option Char) (c : Char) (after : Option Char) : Bool :=
  isLetter c ||
    match c.toNat with
    | 0xB7 => before == some 'l' && after == some 'l'
    | 0x375 => after.any isGreek
    | 0x5F3 | 0x5F4 => before.any isHebrew
    | 0x30FB => label.any isJapanese
    | _ =>
        (isJoiner c && before.any (silencers.contains ·.toNat)) ||
          (isEasternFigure c && !label.any isFarsiFigure) ||
          (isFarsiFigure c && !label.any isEasternFigure)

def arePlaced (label : List Char) (before : Option Char) : List Char → Bool
  | [] => true
  | c :: rest => isPlaced label before c rest.head? && arePlaced label (some c) rest

/-- Whether no mark is to be one with the character before it, and none stands first. -/
def areMarksPlaced (label : List Char) : Bool :=
  !label.head?.any Text.isCombining &&
    (label.zip label.tail).all fun (c, mark) => !composes c mark

def areHyphensPlaced (label : List Char) : Bool :=
  label.head? != some '-' && label.getLast? != some '-' && (label.drop 2).take 2 != ['-', '-']

/-! ## Direction -/

/-- Whether a label is written in one direction. Figures, marks and hyphens may stand in one from
right to left, but a letter is the first in it, and a letter or a figure the last but for marks. -/
def isDirected (label : List Char) : Bool :=
  let isFigure (c : Char) : Bool := isArabicFigure c || isPlainFigure c
  let isEnd (c : Char) : Bool := isLeftward c || isFigure c
  let isInner (c : Char) : Bool := isEnd c || Text.isCombining c || isJoiner c || c == '-'
  let isMixed := label.any isArabicFigure && label.any isPlainFigure
  !label.any (fun c => isLeftward c || isArabicFigure c) ||
    (label.head?.any isLeftward && label.all isInner && !isMixed &&
      (label.reverse.dropWhile Text.isCombining).head?.any isEnd)

/-! ## Labels in ASCII -/

def sign : List Char := "xn--".toList

def encode? (label : List Char) : Option (List Char) :=
  let isSigned := Text.startsWith sign label
  let isPlain := label.all (·.toNat < 128)
  let inner := if isPlain && isSigned then label.drop sign.length else label
  let written := if isPlain then label else sign ++ Punycode.encode label
  if !inner.isEmpty && areHyphensPlaced inner && areMarksPlaced label &&
      arePlaced label none label && isDirected label && written.length ≤ 63 then
    some written
  else none

end Rulebound.Address.Label
