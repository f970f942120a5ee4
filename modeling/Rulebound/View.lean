import Rulebound.Cycle.Record

/-!
# Views

How a turn is shown on a console, as a structure of panels, tables and texts. What comes from a
record stands in a text in which no markup counts, without the characters that a console acts on;
only fixed words and numbers stand where a console looks for markup.
-/

namespace Rulebound

/-- A cell of a table: words in which markup counts, or a text that is shown as it is. -/
inductive Cell where
  | markup (words : String)
  | plain (content : String) (style : String := "")
deriving DecidableEq, Repr, Inhabited

inductive View where
  | text (content : String) (style : String := "")
  | panel (title : String) (body : View)
  | table (title : String) (columns : List String) (rows : List (Cell × Cell))
  | group (parts : List View)
deriving Repr, Inhabited

namespace View

/-- The characters that a console acts on: the bell, the backspace, the vertical tab, the form feed
and the carriage return. -/
def isConsoleControl (c : Char) : Bool :=
  [7, 8, 11, 12, 13].contains c.toNat

/-- A text without the characters that a console acts on. -/
def shown (content : String) : String :=
  String.ofList (content.toList.filter fun c => !isConsoleControl c)

def literal (content : String) (style : String := "") : View :=
  .text (shown content) style

def literalCell (content : String) (style : String := "") : Cell :=
  .plain (shown content) style

def maxBlocks : Nat := 5

def maxItems : Nat := 5

def fieldTable (title : String) (rows : List (Cell × Cell)) : View :=
  .table title ["Field", "Value"] rows

def orWord (text word : String) : Cell :=
  literalCell (if text = "" then word else text)

def ofPosition (p : Position) : Cell :=
  .markup ("(" ++ p.x.tenthsText ++ ", " ++ p.y.tenthsText ++ ", " ++ p.z.tenthsText ++ ")")

def ofObservation (seen : Observation) : Except Fault View := do
  let items ← Item.texts maxItems "x" seen.inventory
  return fieldTable "Observations" [
    (.markup "Position", ofPosition seen.position),
    (.markup "Health", .markup (seen.health.generalText ++ "/20")),
    (.markup "Hunger", .markup (seen.food.generalText ++ "/20")),
    (.markup "Time", literalCell seen.timeOfDay),
    (.markup "Weather", literalCell seen.weather),
    (.markup "Nearby Blocks", orWord (Text.join ", " (seen.nearbyBlocks.take maxBlocks)) "none"),
    (.markup "Nearby Entities", orWord (Text.join ", " (seen.nearbyEntities.map (·.type))) "none"),
    (.markup "Inventory", orWord (Text.join ", " items) "empty")]

def ofAction : Option Action → View
  | none => fieldTable "Decision" [(.markup "Action", .markup "None")]
  | some action =>
      fieldTable "Decision" [
        (.markup "Action", literalCell action.verb),
        (.markup "Parameters", orWord (Text.join " " action.words) "none")]

def whenPresent {α : Type} (text : Option String) (make : String → α) : List α :=
  (text.filter (· != "")).toList.map make

def ofResult (result : Cycle.Result) : View :=
  let success :=
    if result.success then literalCell "True" "green" else literalCell "False" "red"
  fieldTable "Result"
    ((.markup "Success", success) ::
      whenPresent result.message fun message => (.markup "Message", literalCell message))

def ofRecord (record : Cycle.Record) : Except Fault View := do
  let tick ← shownInt record.tick
  let seen ← record.observation.toList.mapM ofObservation
  return .panel "Thought Cycle" <| .group <|
    [literal ("Tick " ++ tick ++ "  " ++ record.timestamp) "bold"] ++ seen ++
    [.panel "Current Goal" (literal record.goal)] ++
    (whenPresent record.reasoning fun reasoning => .panel "Reasoning" (literal reasoning)) ++
    [ofAction record.action, ofResult record.result] ++
    (whenPresent record.violation fun violation =>
      .panel "Rule Violation" (literal ("Blocked: " ++ violation) "bold red"))

end View

/-!
## Outlines of views

The structure of a view as JSON.
-/

def Cell.toJson : Cell → Json
  | markup words => .object [("markup", .string words)]
  | plain content style => .object [("text", .string content), ("style", .string style)]

namespace View

mutual

def toJson : View → Json
  | text content style => .object [("text", .string content), ("style", .string style)]
  | panel title body => .object [("panel", .string title), ("body", toJson body)]
  | table title columns rows =>
      .object [
        ("table", .string title),
        ("show_header", .bool false),
        ("columns", .ofTexts columns),
        ("rows", .array (rows.map fun row => .array [row.1.toJson, row.2.toJson]))]
  | group parts => .object [("group", .array (listJson parts))]

def listJson : List View → List Json
  | [] => []
  | part :: rest => toJson part :: listJson rest

end

end View

/-!
## Views as lines

A view on a plain console: one line after another, what is within a panel or a table two places
further in.
-/

def Cell.words : Cell → String
  | markup words => words
  | plain content _ => content

namespace View

def indented (lines : List String) : List String :=
  lines.map ("  " ++ ·)

mutual

def lines : View → List String
  | text content _ => [content]
  | panel title body => title :: indented (lines body)
  | table title _ rows =>
      title :: indented (rows.map fun row => row.1.words ++ ": " ++ row.2.words)
  | group parts => linesOfAll parts

def linesOfAll : List View → List String
  | [] => []
  | part :: rest => lines part ++ linesOfAll rest

end

end View

end Rulebound
