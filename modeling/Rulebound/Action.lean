import Rulebound.Schema.Decode
import Rulebound.Text.Case
import Rulebound.Text.Character

/-!
# Actions

What the model proposes to do in one turn: a verb and the words after it.
-/

namespace Rulebound

/-- A proposed action: its verb, the words after the verb, and those words as they were written. -/
structure Action where
  verb : String
  params : Option (List String)
  raw : String
deriving DecidableEq, Repr, Inhabited

namespace Action

def words (action : Action) : List String :=
  action.params.getD []

def joinedName? (action : Action) : Option String :=
  if action.words.isEmpty then none else some (Text.lower (Text.join "_" action.words))

def toJson (action : Action) : Json :=
  .object [
    ("type", .string action.verb),
    ("params", match action.params with
      | some words => .ofTexts words
      | none => .null),
    ("raw", .string action.raw)]

def decode : Json → Checked Action :=
  Decode.object fun fields =>
    Decode.only ["type", "params", "raw"] fields
      (Action.mk <$> Decode.required fields "type" Decode.text
        <*> Decode.withDefault fields "params" (Decode.optional (Decode.tuple Decode.text)) none
        <*> Decode.withDefault fields "raw" Decode.text "")

end Action

namespace Action

/-!
## Reading actions from replies

A reply proposes an action at the first marker that is followed by a word: the word is the verb,
and what stands after it, up to the end of its line, are the words of the action.
-/

/-- Whether a character stands for a capital letter of the marker. The letter I has four forms. -/
def standsFor (letter c : Char) : Bool :=
  c == letter || c == letter.toLower || (letter == 'I' && (c == 'ı' || c == 'İ'))

def afterMarker? : List Char → List Char → Option (List Char)
  | [], text => some text
  | _ :: _, [] => none
  | letter :: marker, c :: text =>
      if standsFor letter c then afterMarker? marker text else none

def marker : List Char := "ACTION:".toList

def ofParts (verb after : List Char) : Action :=
  let line := (Text.trimFront after).takeWhile (· != '\n')
  let raw := Text.trim line
  let words := (Text.words raw).map String.ofList
  { verb := String.ofList (Text.lowerChars verb)
    params := if words.isEmpty then none else some words
    raw := String.ofList raw }

def atFront? (text : List Char) : Option Action := do
  let after := Text.trimFront (← afterMarker? marker text)
  let verb := after.takeWhile Text.isWord
  if verb.isEmpty then none else some (ofParts verb (after.dropWhile Text.isWord))

def find? : List Char → Option Action
  | [] => none
  | c :: rest =>
      match atFront? (c :: rest) with
      | some action => some action
      | none => find? rest

def read? (reply : String) : Option Action :=
  find? reply.toList

end Action

end Rulebound
