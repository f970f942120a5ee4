import Rulebound.Command.Switch
import Rulebound.Number.Reading
import Rulebound.Text.Quoted

/-!
# Words of the command line

What each word of a command line is. A long switch may be cut short as long as what is left
belongs to one switch only, and its value may follow an equals sign. A word that looks like a
negative number, or that has a space in it, is no switch. After two dashes there are no switches.
-/

namespace Rulebound.Command

inductive Misuse where
  | ambiguous (word : String) (spellings : List String)
  | valueMissing (switch : Switch)
  | valueUnused (switch : Switch) (value : String)
  | valueUnreadable (switch : Switch) (type value : String)
  | unrecognized (words : List String)
deriving DecidableEq, Repr

def Misuse.text : Misuse → String
  | ambiguous word spellings =>
      "ambiguous option: " ++ word ++ " could match " ++ Text.join ", " spellings
  | valueMissing switch => "argument " ++ switch.label ++ ": expected one argument"
  | valueUnused switch value =>
      "argument " ++ switch.label ++ ": ignored explicit argument " ++ Text.quoted value
  | valueUnreadable switch type value =>
      "argument " ++ switch.label ++ ": invalid " ++ type ++ " value: " ++ Text.quoted value
  | unrecognized words => "unrecognized arguments: " ++ Text.join " " words

inductive Word where
  /-- A word that is no switch: a value, or one too many. -/
  | plain (text : String)
  /-- The two dashes that end the switches. -/
  | divider
  /-- A switch, with the value in the same word. -/
  | switch (switch : Switch) (value : Option String)
  /-- A word that looks like a switch and is none. -/
  | unknown (text : String)
deriving DecidableEq, Repr

namespace Word

def areDigits (text : List Char) : Bool :=
  text.all fun c => (Text.digit? c).isSome

/-- Whether a text is a negative number: a dash, then digits, or digits with one point among or
before them. A line feed may end it. -/
def isNegativeNumber : List Char → Bool
  | '-' :: rest =>
      let rest := if rest.getLast? = some '\n' then rest.dropLast else rest
      match Text.cut '.' rest with
      | (whole, none) => !whole.isEmpty && areDigits whole
      | (whole, some fraction) => areDigits whole && !fraction.isEmpty && areDigits fraction
  | _ => false

/-- What is left of the text after the short spelling for help, if anything is. Letters after the
spelling stand for short switches of their own, of which there is no other one. -/
def helpValue? (text : List Char) : Option String :=
  match text, text.dropWhile (· == 'h') with
  | _ :: _, [] => none
  | _, rest => some (String.ofList rest)

/-- The switches that a word may stand for: long ones by their beginning, and the short one with
letters after it. -/
def candidates (text : List Char) : List (String × Word) :=
  match text with
  | '-' :: '-' :: _ =>
      let (front, value) := Text.cut '=' text
      (Switch.beginningWith front).map fun entry =>
        (entry.1, .switch entry.2 (value.map String.ofList))
  | '-' :: 'h' :: rest => [("-h", .switch .help (helpValue? rest))]
  | _ => []

/-- A switch that is spelled in full, with or without a value after an equals sign. -/
def inFull? (text : List Char) : Option Word :=
  match Switch.ofSpelling? text, Text.cut '=' text with
  | some found, _ => some (.switch found none)
  | none, (['-', 'h'], some value) => some (.switch .help (helpValue? value))
  | none, (front, some value) =>
      (Switch.ofSpelling? front).map (.switch · (some (String.ofList value)))
  | none, _ => none

def ofText (text : String) : Except Misuse Word :=
  let chars := text.toList
  if chars.head? ≠ some '-' ∨ chars = ['-'] then .ok (.plain text)
  else
    match inFull? chars, candidates chars with
    | some word, _ => .ok word
    | none, [(_, word)] => .ok word
    | none, first :: others => .error (.ambiguous text ((first :: others).map Prod.fst))
    | none, [] =>
        if isNegativeNumber chars || chars.contains ' ' then .ok (.plain text)
        else .ok (.unknown text)

def ofTexts : List String → Except Misuse (List Word)
  | [] => .ok []
  | text :: rest =>
      if text = "--" then .ok (.divider :: rest.map .plain)
      else do
        let word ← ofText text
        return word :: (← ofTexts rest)

end Word

end Rulebound.Command
