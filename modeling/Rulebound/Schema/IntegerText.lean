import Rulebound.Number.Reading

/-!
# Integers in strings

A string that is an integer as programs write one is read at once. Any other string is cleaned
first: of blanks around it, of a plus sign, of zeros before its first figure, of a fraction of
zeros, and of low lines between its figures.
-/

namespace Rulebound.IntegerText

inductive Reading where
  | read (value : Int)
  /-- More figures than are read, whatever follows them. -/
  | tooLong
  | unread
deriving DecidableEq, Repr

def takeMinus : List Char → Bool × List Char
  | '-' :: rest => (true, rest)
  | text => (false, text)

/-- An integer as programs write one: a minus sign or none, then a lone zero, or digits that do
not begin with one. -/
def strict (text : List Char) : Reading :=
  let (negative, unsigned) := takeMinus text
  let (digits, rest) := NumberText.takeDigits unsigned
  match digits with
  | [] => .unread
  | 0 :: _ => if digits.length = 1 ∧ rest = [] then .read 0 else .unread
  | _ =>
      if longestInteger < digits.length + (if negative then 1 else 0) then .tooLong
      else if rest = [] then .read (if negative then -(ofDigits digits : Int) else ofDigits digits)
      else .unread

/-- Whether a character ends the zeros before the first figure: another figure or a minus sign. -/
def isFigure (c : Char) : Bool :=
  c == '-' || ('1' ≤ c && c ≤ '9')

/-- The text from its first figure on, after a zero or a low line. A point ends the zeros as well,
and the character before it is kept; at the end of the text its last character is kept. -/
def afterZeros? : Char → List Char → Option (List Char)
  | before, [] => some [before]
  | before, c :: rest =>
      if c = '0' ∨ c = '_' then afterZeros? c rest
      else if isFigure c then some (c :: rest)
      else if c = '.' then some (before :: c :: rest)
      else none

/-- The text without the zeros before its first figure. -/
def dropZeros? : List Char → Option (List Char)
  | [] => none
  | c :: rest =>
      if c = '0' then afterZeros? c rest else if isFigure c then some (c :: rest) else none

/-- The text before a point, if after it there are zeros and nothing else. -/
def dropFraction (text : List Char) : List Char :=
  match Text.cut '.' text with
  | (whole, some fraction) =>
      if !fraction.isEmpty && fraction.all (· == '0') then whole else text
  | _ => text

/-- A text without its low lines, if none stands at an end or beside another one. -/
def dropLowLines? (text : List Char) : Option (List Char) :=
  if text.head? = some '_' ∨ text.getLast? = some '_' ∨ Text.isWithin ['_', '_'] text then none
  else some (text.filter (· != '_'))

/-- A text without a plus sign, which no minus sign may follow. -/
def dropPlus? : List Char → Option (List Char)
  | '+' :: '-' :: _ => none
  | '+' :: rest => some rest
  | text => some text

/-- A text cleaned of what may stand around the figures of an integer. -/
def clean? (text : List Char) : Option (List Char) := do
  let (negative, unsigned) := takeMinus (← dropPlus? (NumberText.unpad text))
  let figures := dropFraction (← dropZeros? unsigned)
  let cleaned := (dropLowLines? figures).getD figures
  return if negative then '-' :: cleaned else cleaned

def read (text : List Char) : Reading :=
  match strict text, (clean? text).map strict with
  | .unread, some (.read value) => .read value
  | .unread, _ => .unread
  | found, _ => found

end Rulebound.IntegerText
