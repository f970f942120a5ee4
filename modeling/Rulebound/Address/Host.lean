import Rulebound.Address.Label
import Rulebound.Number.Reading
import Rulebound.Text.Case
import Rulebound.Text.Quoted

/-!
# Hosts

The host of an address: four numbers between points, numbers of a longer form in brackets, or a
name. Names are in lower case, and the parts of a name that are not in ASCII are written in it
under a sign of their own.
-/

namespace Rulebound.Address

inductive Flaw where
  | tooLong
  | control (c : Char) (place : Nat)
  | fourNumbers (host : String)
  | bracketed (host : String)
  | international (host : String)
  | gate (text : String)
  /-- A path that does not begin with a slash stands after a host. -/
  | looseAfterHost
  | doubleSlash
  | leadingColon
deriving DecidableEq, Repr

def Flaw.message : Flaw → String
  | tooLong => "URL too long"
  | control c place =>
      "Invalid non-printable ASCII character in URL, " ++ Text.quoted (String.singleton c) ++
        " at position " ++ intText place ++ "."
  | fourNumbers host => "Invalid IPv4 address: " ++ Text.quoted host
  | bracketed host => "Invalid IPv6 address: " ++ Text.quoted host
  | international host => "Invalid IDNA hostname: " ++ Text.quoted host
  | gate text => "Invalid port: " ++ Text.quoted text
  | looseAfterHost => "For absolute URLs, path must be empty or begin with '/'"
  | doubleSlash => "Relative URLs cannot have a path starting with '//'"
  | leadingColon => "Relative URLs cannot have a path starting with ':'"

namespace Host

def isAlphanumeric (c : Char) : Bool :=
  c.toNat < 128 && c.isAlphanum

/-! ## Numbers -/

def piecesBetween (divides : Char → Bool) (text : List Char) : List (List Char) :=
  Text.splitChars '.' (text.map fun c => if divides c then '.' else c)

/-- Whether a text has the look of four numbers, each divided from the next by one character, which
may itself be a digit. -/
def looksLikeNumbers (text : List Char) : Bool :=
  let pieces := piecesBetween (!NumberText.isDigit ·) text
  let room := pieces.foldl (fun total piece => total + (piece.length - 1) / 2) 0
  pieces.all (!·.isEmpty) && pieces.length ≤ 4 && 4 ≤ pieces.length + room

def isByte (text : List Char) : Bool :=
  !text.isEmpty && text.length ≤ 3 && text.all NumberText.isDigit &&
    (text.head? != some '0' || text.length == 1) &&
    ofDigits (text.filterMap asciiDigit?) < 256

def isFourNumbers (text : List Char) : Bool :=
  let pieces := Text.splitChars '.' text
  pieces.length == 4 && pieces.all isByte

def isHexDigit (c : Char) : Bool :=
  NumberText.isDigit c || ('a' ≤ c && c ≤ 'f') || ('A' ≤ c && c ≤ 'F')

def isGroup (text : List Char) : Bool :=
  !text.isEmpty && text.length ≤ 4 && text.all isHexDigit

/-- Pieces between colons with four numbers at the end counted as two groups; none if the last
piece has points and is not four numbers. -/
def groups? (pieces : List (List Char)) : Option (List (List Char)) :=
  match pieces.getLast? with
  | some last =>
      if !last.contains '.' then some pieces
      else if isFourNumbers last then some (pieces.dropLast ++ [['0'], ['0']])
      else none
  | none => none

/-- Whether pieces between colons are eight groups, some of which two colons may stand for. -/
def areGroups (pieces : List (List Char)) : Bool :=
  let inner := (pieces.drop 1).dropLast
  let gaps := (inner.filter List.isEmpty).length
  let given := (pieces.filter (!·.isEmpty)).length
  let opensWell := pieces.head? != some [] || inner.head? == some []
  let closesWell := pieces.getLast? != some [] || inner.getLast? == some []
  (pieces.filter (!·.isEmpty)).all isGroup &&
    (if gaps = 0 then pieces.length == 8 && given == 8
    else gaps == 1 && given < 8 && opensWell && closesWell)

/-- Whether a text is what may stand in brackets: eight groups, then a zone after a percent sign or
none. -/
def isBracketed (text : List Char) : Bool :=
  let (front, zone?) := Text.cut '%' text
  let isZoned := match zone? with
    | some zone => !zone.isEmpty && !zone.contains '%'
    | none => true
  let pieces := Text.splitChars ':' front
  isZoned && 3 ≤ pieces.length && ((groups? pieces).map areGroups).getD false

/-! ## Names -/

def isSafe (c : Char) : Bool :=
  isAlphanumeric c || "-._~!$&'()*+,;=\"`%|\\\x7b\x7d".toList.contains c

/-- The points between the parts of an international name. -/
def isPoint (c : Char) : Bool :=
  [0x2E, 0x3002, 0xFF0E, 0xFF61].contains c.toNat

/-- An international name in ASCII. A point may end it. -/
def international? (name : List Char) : Option (List Char) := do
  let labels := piecesBetween isPoint name
  let ends := 1 < labels.length && labels.getLast? == some []
  let written ← (if ends then labels.dropLast else labels).mapM Label.encode?
  let text := Text.joinChars ['.'] written
  if 253 < text.length then none
  else return if ends then text ++ ['.'] else text

def encode (host : List Char) : Except Flaw (List Char) :=
  let named := String.ofList host
  let lowered := (Text.lower named).toList
  if looksLikeNumbers host then
    if isFourNumbers host then .ok host else .error (.fourNumbers named)
  else if host.head? = some '[' ∧ host.getLast? = some ']' ∧ 1 < host.length then
    if isBracketed (host.drop 1).dropLast then .ok (host.drop 1).dropLast
    else .error (.bracketed named)
  else if host.all (·.toNat < 128) then
    .ok ((Text.percentEncode isSafe lowered).map Char.toLower)
  else
    match international? lowered with
    | some text => .ok text
    | none => .error (.international named)

end Host

end Rulebound.Address
