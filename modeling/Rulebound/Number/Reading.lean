import Rulebound.Number.Decimal
import Rulebound.Text.Character
import Rulebound.Text.Search

/-!
# Reading numbers from text

Two readings of a decimal. The generous one takes digits of all scripts and a low line between two
digits; it reads what people type. The strict one takes ASCII digits alone; it reads what programs
write.
-/

namespace Rulebound

namespace NumberText

/-- The information separators, which are blank and yet do not stand around a number. -/
def isSeparator (c : Char) : Bool :=
  0x1C ≤ c.toNat && c.toNat ≤ 0x1F

def isPadding (c : Char) : Bool :=
  Text.isBlank c && !isSeparator c

def unpad (text : List Char) : List Char :=
  ((text.dropWhile isPadding).reverse.dropWhile isPadding).reverse

def asciiDigits (text : List Char) : List Char :=
  text.map fun c => if c.toNat < 128 then c else ((Text.digit? c).map digitChar).getD c

def isDigit (c : Char) : Bool :=
  (asciiDigit? c).isSome

/-- A text without low lines, if each stands between two digits. The first argument says whether
the character before is a digit. -/
def dropLowLines? : Bool → List Char → Option (List Char)
  | _, [] => some []
  | afterDigit, c :: rest =>
      if c = '_' then
        if afterDigit && (rest.head?.map isDigit).getD false then dropLowLines? false rest else none
      else (dropLowLines? (isDigit c) rest).map (c :: ·)

def takeDigits (text : List Char) : List Nat × List Char :=
  ((text.takeWhile isDigit).filterMap asciiDigit?, text.dropWhile isDigit)

def takeSign : List Char → Bool × List Char
  | '-' :: rest => (true, rest)
  | '+' :: rest => (false, rest)
  | text => (false, text)

def takeExponent (text : List Char) : Option (Int × List Char) :=
  match text with
  | [] => some (0, [])
  | c :: rest =>
      if c = 'e' ∨ c = 'E' then
        let (negative, rest) := takeSign rest
        match takeDigits rest with
        | ([], _) => none
        | (digits, rest) =>
            some (if negative then -(ofDigits digits : Int) else ofDigits digits, rest)
      else some (0, text)

/-- A decimal with no sign: digits with or without a point, then an exponent or nothing. -/
def decimal? (text : List Char) : Option Decimal :=
  let (whole, rest) := takeDigits text
  let (fraction, rest) :=
    match rest with
    | '.' :: rest => takeDigits rest
    | rest => ([], rest)
  match whole ++ fraction, takeExponent rest with
  | [], _ => none
  | digits, some (exponent, []) => some ⟨digits, exponent + whole.length⟩
  | _, _ => none

/-- The number that a signed decimal or a name of infinity or of no number stands for. -/
def number? (text : List Char) : Option Binary64 :=
  let (negative, rest) := takeSign text
  let name := rest.map Char.toLower
  if name = "inf".toList ∨ name = "infinity".toList then some (.infinite negative)
  else if name = "nan".toList then some .nan
  else (decimal? rest).map (·.toBinary64 negative)

/-- The integer that a sign and digits stand for. -/
def integer? (text : List Char) : Option Int :=
  let (negative, rest) := takeSign text
  match takeDigits rest with
  | ([], _) => none
  | (digits, []) => some (if negative then -(ofDigits digits : Int) else ofDigits digits)
  | _ => none

def generous? (text : String) : Option (List Char) :=
  dropLowLines? false (asciiDigits (unpad text.toList))

end NumberText

def Binary64.read? (text : String) : Option Binary64 :=
  (NumberText.generous? text).bind NumberText.number?

/-- Whether a text has no more digits than an integer is read from. -/
def isShortInteger (text : List Char) : Bool :=
  (text.filter NumberText.isDigit).length ≤ longestInteger

def readInt? (text : String) : Option Int :=
  ((NumberText.generous? text).filter isShortInteger).bind NumberText.integer?

end Rulebound
