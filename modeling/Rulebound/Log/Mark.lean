import Rulebound.Fault
import Rulebound.Json.Printer
import Rulebound.Number.Decimal

/-!
# Marks

A mark in a message template says how an argument is written: as a text, as an integer to a base,
as a number with so many digits, or as a character; in how much room, and with which sign.
-/

namespace Rulebound.Log

/-- A number in a mark: the width of the room, or the precision. -/
inductive Measure where
  | width
  | precision
deriving DecidableEq, Repr

namespace Measure

/-- The measures are whole numbers below this one. -/
def bound : Measure → Nat
  | width => 0x8000000000000000
  | precision => 0x80000000

def name : Measure → String
  | width => "width"
  | precision => "precision"

/-- The kind of number that a measure given as an argument has to fit in. -/
def kindName : Measure → String
  | width => "ssize_t"
  | precision => "int"

end Measure

inductive Unfilled where
  | tooFew
  | tooMany
  /-- A mark names a field, and there is no object to take it from. -/
  | noFields
  | fieldMissing (name : String)
  | openName
  | openMark
  | measureNotInteger
  /-- A measure in digits, or one given as an argument, that is not below the bound. -/
  | measureTooBig (measure : Measure)
  | measureTooLarge (measure : Measure)
  | unknownLetter (letter : Char) (place : Nat)
  | notNumber (letter : Char) (kind : String)
  | notInteger (letter : Char) (kind : String)
  | notReal (kind : String)
  | tooLarge
  | notFinite (reason : Binary64.NotFinite)
  | notCharacter
  | noSuchCharacter
deriving DecidableEq, Repr

namespace Unfilled

def markText (letter : Char) : String :=
  "%" ++ String.singleton letter

/-- A letter as it is named when it is unknown: one that is not printable ASCII has no name. -/
def letterText (letter : Char) : String :=
  if 31 ≤ letter.toNat ∧ letter.toNat ≤ 126 then String.singleton letter else "?"

/-- The digits of a number to base 16, without zeros before them. -/
def hexText (n : Nat) : String :=
  String.ofList (Nat.toDigits 16 n)

def fault : Unfilled → Fault
  | tooFew => ⟨.type, some "not enough arguments for format string", ""⟩
  | tooMany => ⟨.type, some "not all arguments converted during string formatting", ""⟩
  | noFields => ⟨.type, some "format requires a mapping", ""⟩
  | fieldMissing name => ⟨.key, some name, ""⟩
  | openName => ⟨.value, some "incomplete format key", ""⟩
  | openMark => ⟨.value, some "incomplete format", ""⟩
  | measureNotInteger => ⟨.type, some "* wants int", ""⟩
  | measureTooBig measure => ⟨.value, some (measure.name ++ " too big"), ""⟩
  | measureTooLarge measure =>
      ⟨.overflow, some ("Python int too large to convert to C " ++ measure.kindName), ""⟩
  | unknownLetter letter place =>
      ⟨.value, some ("unsupported format character '" ++ letterText letter ++ "' (0x" ++
        hexText letter.toNat ++ ") at index " ++ intText place), ""⟩
  | notNumber letter kind =>
      ⟨.type, some (markText letter ++ " format: a real number is required, not " ++ kind), ""⟩
  | notInteger letter kind =>
      ⟨.type, some (markText letter ++ " format: an integer is required, not " ++ kind), ""⟩
  | notReal kind => ⟨.type, some ("must be real number, not " ++ kind), ""⟩
  | tooLarge => Fault.integerTooLarge
  | notFinite reason => Fault.ofNotFinite reason
  | notCharacter => ⟨.type, some "%c requires int or char", ""⟩
  | noSuchCharacter => ⟨.overflow, some "%c arg not in range(0x110000)", ""⟩

end Unfilled

structure Mark where
  /-- Whether what is written stands at the left of its room. -/
  isLeft : Bool := false
  /-- Whether a number that is not negative has a plus sign, or else a blank, before it. -/
  hasPlus : Bool := false
  hasBlank : Bool := false
  /-- Whether a base is shown, and a point without digits after it. -/
  isFull : Bool := false
  /-- Whether the room before a number is filled with zeros. -/
  hasZeros : Bool := false
  width : Nat := 0
  precision? : Option Nat := none
deriving DecidableEq, Repr, Inhabited

namespace Mark

/-! ## Layout -/

def inRoom (mark : Mark) (text : List Char) : List Char :=
  let room := List.replicate (mark.width - text.length) ' '
  if mark.isLeft then text ++ room else room ++ text

def signChars (mark : Mark) (negative : Bool) : List Char :=
  if negative then ['-'] else if mark.hasPlus then ['+'] else if mark.hasBlank then [' '] else []

/-- A number in its room: its sign, the name of its base, and its digits. -/
def number (mark : Mark) (negative : Bool) (base digits : List Char) : List Char :=
  let front := mark.signChars negative ++ base
  let zeros :=
    if mark.hasZeros && !mark.isLeft then mark.width - (front.length + digits.length) else 0
  mark.inRoom (front ++ List.replicate zeros '0' ++ digits)

/-! ## Arguments -/

def wholeOf (letter : Char) : Json → Except Unfilled Int
  | .int n => .ok n
  | .bool b => .ok (if b then 1 else 0)
  | .float (.finite s units _) => .ok (Binary64.signed s (units / Binary64.stepsPerOne))
  | .float .nan => .error (.notFinite .nan)
  | .float (.infinite _) => .error (.notFinite .infinite)
  | value => .error (.notNumber letter value.kindName)

def integerOf (letter : Char) : Json → Except Unfilled Int
  | .int n => .ok n
  | .bool b => .ok (if b then 1 else 0)
  | value => .error (.notInteger letter value.kindName)

def realOf : Json → Except Unfilled Binary64
  | .float x => .ok x
  | .bool b => .ok (if b then 1 else 0)
  | .int n =>
      match Binary64.ofInt? n with
      | some x => .ok x
      | none => .error .tooLarge
  | value => .error (.notReal value.kindName)

def characterOf : Json → Except Unfilled Char
  | .string text =>
      match text.shown.toList with
      | [c] => .ok c
      | _ => .error .notCharacter
  | .int n => if 0 ≤ n ∧ n < 0x110000 then .ok (Char.ofNat n.toNat) else .error .noSuchCharacter
  | .bool b => .ok (Char.ofNat (if b then 1 else 0))
  | _ => .error .notCharacter

/-! ## Writing -/

def writeText (mark : Mark) (text : List Char) : List Char :=
  mark.inRoom ((mark.precision?.map text.take).getD text)

/-- An integer in digits to a base, of which there are as many as the precision says at least. -/
def writeInteger (mark : Mark) (base : Nat) (name : List Char) (n : Int) : List Char :=
  let digits := Nat.toDigits base n.natAbs
  let zeros := List.replicate (mark.precision?.getD 0 - digits.length) '0'
  mark.number (decide (n < 0)) (if mark.isFull then name else []) (zeros ++ digits)

def writeReal (mark : Mark) (layout : Nat → List Char) (x : Binary64) : List Char :=
  match x.writeBy layout with
  | '-' :: digits => mark.number true [] digits
  | digits => mark.number false [] digits

/-- The layout that the letter of a number stands for, and whether it is in capitals. -/
def layout? (mark : Mark) (letter : Char) : Option (Nat → List Char) :=
  let size := mark.precision?.getD 6
  match letter.toLower with
  | 'e' => some (Binary64.exponentialChars mark.isFull size)
  | 'f' => some (Binary64.fixedChars mark.isFull size)
  | 'g' => some (Binary64.generalChars mark.isFull size)
  | _ => none

def capitals (isCapital : Bool) (text : List Char) : List Char :=
  if isCapital then text.map Char.toUpper else text

def write (mark : Mark) (letter : Char) (place : Nat) (value : Json) :
    Except Unfilled (List Char) :=
  match letter with
  | 's' => .ok (mark.writeText value.display.toList)
  | 'r' => .ok (mark.writeText value.nested)
  | 'a' => .ok (mark.writeText (Text.asciiOnly value.nested))
  | 'c' => (characterOf value).map fun c => mark.inRoom [c]
  | 'd' | 'i' | 'u' => (wholeOf letter value).map (mark.writeInteger 10 [])
  | 'o' => (integerOf letter value).map (mark.writeInteger 8 ['0', 'o'])
  | 'x' | 'X' =>
      (integerOf letter value).map fun n =>
        capitals letter.isUpper (mark.writeInteger 16 ['0', 'x'] n)
  | _ =>
      match mark.layout? letter with
      | some layout =>
          (realOf value).map fun x => capitals letter.isUpper (mark.writeReal layout x)
      | none => .error (.unknownLetter letter place)

end Mark

end Rulebound.Log
