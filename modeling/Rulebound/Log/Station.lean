import Rulebound.Files
import Rulebound.Log
import Rulebound.Log.Mark

/-!
# Templates and stations

How a message is made from a template, and where it goes.
-/

namespace Rulebound.Log

/-!
## Message templates

A message is written as a template with a mark for each of its arguments; `%%` is a percent sign.
A mark may name a field of an object, if that is the only argument. A template without arguments
is a message as it stands.
-/

/-- The arguments that are left, and the fields that marks may name. -/
structure Supply where
  fields? : Option Json.Fields
  left : List Json

namespace Supply

/-- A single object gives its fields, unless it has none. -/
def ofArguments (arguments : List Json) : Supply :=
  match arguments with
  | [.object (field :: fields)] => ⟨some (field :: fields), arguments⟩
  | _ => ⟨none, arguments⟩

def take (supply : Supply) : Except Unfilled (Json × Supply) :=
  match supply.left with
  | [] => .error .tooFew
  | value :: rest => .ok (value, { supply with left := rest })

/-- Nothing more is to be written: every argument has been, unless marks could name fields. -/
def finish (supply : Supply) : Except Unfilled Unit :=
  if supply.left.isEmpty || supply.fields?.isSome then .ok () else .error .tooMany

end Supply

/-! ## Reading a mark -/

def nameAndRest? : Nat → List Char → Option (List Char × List Char)
  | _, [] => none
  | depth, c :: rest =>
      if c = ')' ∧ depth = 0 then some ([], rest)
      else
        let depth := if c = '(' then depth + 1 else if c = ')' then depth - 1 else depth
        (nameAndRest? depth rest).map fun (name, rest) => (c :: name, rest)

/-- The supply of the field that a mark names, if it names one, and the text after the name. -/
def takeField (supply : Supply) (text : List Char) : Except Unfilled (Supply × List Char) :=
  match text with
  | '(' :: rest =>
      match supply.fields?, nameAndRest? 0 rest with
      | none, _ => .error .noFields
      | _, none => .error .openName
      | some fields, some (name, rest) =>
          match Json.lookup? fields (String.ofList name) with
          | some value => .ok ({ supply with left := [value] }, rest)
          | none => .error (.fieldMissing (String.ofList name))
  | text => .ok (supply, text)

def takeFlags (mark : Mark) : List Char → Mark × List Char
  | '-' :: rest => takeFlags { mark with isLeft := true } rest
  | '+' :: rest => takeFlags { mark with hasPlus := true } rest
  | ' ' :: rest => takeFlags { mark with hasBlank := true } rest
  | '#' :: rest => takeFlags { mark with isFull := true } rest
  | '0' :: rest => takeFlags { mark with hasZeros := true } rest
  | text => (mark, text)

def measureOf (measure : Measure) : Json → Except Unfilled Int
  | .int n =>
      if -(measure.bound : Int) ≤ n ∧ n < measure.bound then .ok n
      else .error (.measureTooLarge measure)
  | .bool b => .ok (if b then 1 else 0)
  | _ => .error .measureNotInteger

def takeMeasure (measure : Measure) (supply : Supply) (text : List Char) :
    Except Unfilled (Option Int × Supply × List Char) :=
  match text with
  | '*' :: rest => do
      let (value, supply) ← supply.take
      return (some (← measureOf measure value), supply, rest)
  | text =>
      let digits := (text.takeWhile Char.isDigit).filterMap asciiDigit?
      let size := ofDigits digits
      if measure.bound ≤ size then .error (.measureTooBig measure)
      else
        let size? := if digits.isEmpty then none else some (size : Int)
        .ok (size?, supply, text.dropWhile Char.isDigit)

/-- A mark with a width; below zero it stands for room at the right. -/
def withWidth (mark : Mark) : Option Int → Mark
  | none => mark
  | some n => { mark with width := n.natAbs, isLeft := mark.isLeft || decide (n < 0) }

def takePrecision (mark : Mark) (supply : Supply) (text : List Char) :
    Except Unfilled (Mark × Supply × List Char) :=
  match text with
  | '.' :: rest => do
      let (size?, supply, rest) ← takeMeasure .precision supply rest
      return ({ mark with precision? := some ((size?.getD 0).toNat) }, supply, rest)
  | text => .ok (mark, supply, text)

/-- A text without the letter at its front that says how long a number is. -/
def dropSize : List Char → List Char
  | 'h' :: rest => rest
  | 'l' :: rest => rest
  | 'L' :: rest => rest
  | text => text

/-! ## Filling a template -/

/-- The end of a template of the given size with its arguments in place. The fuel bounds the number
of characters. -/
def fillFrom (size : Nat) : Nat → Supply → List Char → Except Unfilled (List Char)
  | 0, supply, _ => supply.finish.map fun _ => []
  | _, supply, [] => supply.finish.map fun _ => []
  | fuel + 1, supply, '%' :: '%' :: rest => do
      return '%' :: (← fillFrom size fuel supply rest)
  | fuel + 1, supply, '%' :: rest => do
      let (supply, rest) ← takeField supply rest
      let (mark, rest) := takeFlags {} rest
      let (width?, supply, rest) ← takeMeasure .width supply rest
      let (mark, supply, rest) ← takePrecision (withWidth mark width?) supply rest
      match dropSize rest with
      | [] => .error .openMark
      | letter :: rest =>
          let (value, supply) ← supply.take
          let text ← mark.write letter (size - rest.length - 1) value
          return text ++ (← fillFrom size fuel supply rest)
  | fuel + 1, supply, c :: rest => do
      return c :: (← fillFrom size fuel supply rest)

def fill (template : List Char) (arguments : List Json) : Except Unfilled (List Char) :=
  fillFrom template.length (template.length + 1) (.ofArguments arguments) template

def written (template : String) (arguments : List Json) : Except Unfilled String :=
  if arguments.isEmpty then .ok template
  else (fill template.toList arguments).map String.ofList

/-!
## Stations

Outlets together with the files that they write to. New outlets take the place of the old ones;
what was written stays, and a file that is named again is continued. A message that cannot be
written out is a fault if it is to be shown; a file does without it.
-/

/-- The outlets of the moment, if there are any, and the files. -/
structure Station where
  outlets? : Option Outlets := none
  files : Files := {}
deriving DecidableEq

namespace Station

/-- The files with bytes at the end of one of them; where that cannot be, they stay as they are. -/
def write (files : Files) (file : Path) (words : String) : Files :=
  (files.create file words.toUTF8.toList).toOption.getD files

/-- The station with new outlets. Their file is there from then on. -/
def configure (station : Station) (outlets : Outlets) : Except Fault Station :=
  match outlets.file? with
  | none => .ok { station with outlets? := some outlets }
  | some file => do
      return ⟨some outlets, ← station.files.create file []⟩

def shows (station : Station) (message : Message) : Bool :=
  station.outlets?.any (·.shows message)

def take (station : Station) (message : Message) : Station :=
  match station.outlets?.bind (·.fileFor? message) with
  | some file => { station with files := write station.files file (message.line ++ "\n") }
  | none => station

/-- The source of a name; one without a name is the root of all others. -/
def sourceOf (name : String) : String :=
  if name = "" then "root" else name

/-- The station after a message that is still to be written out, and the message if it is shown. -/
def post (station : Station) (name : String) (level : Level) (template : String)
    (arguments : List Json) : Except Fault (Station × Option Message) :=
  let shown := station.shows ⟨sourceOf name, level, ""⟩
  match written template arguments with
  | .ok text =>
      let message : Message := ⟨sourceOf name, level, text⟩
      .ok (station.take message, if shown then some message else none)
  | .error reason => if shown then .error reason.fault else .ok (station, none)

/-- The least level at which messages are taken. Without outlets it is that of warnings. -/
def least (station : Station) : Level :=
  (station.outlets?.map (·.least)).getD .warning

def quiet? (station : Station) : Option Level :=
  station.outlets?.map fun _ => quietLevel

end Station

end Rulebound.Log
