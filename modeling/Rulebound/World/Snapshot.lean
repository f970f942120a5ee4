import Rulebound.Json.Value
import Rulebound.Number.Reading
import Rulebound.World

/-!
# Snapshots of worlds

Worlds as JSON, and the plain readings of JSON of which they are made.
-/

namespace Rulebound.Json

/-!
## Plain readings

Values from JSON that was written by hand, where a number may stand in a string. What is not of
the expected kind is read as nothing: an empty text, a zero, an empty list.
-/

def asText : Json → String
  | string value => value.shown
  | _ => ""

def asText? : Json → Option String
  | null => none
  | value => some value.asText

def fields : Json → Fields
  | object fields => fields
  | _ => []

def items : Json → List Json
  | array items => items
  | _ => []

def asInt : Json → Int
  | int value => value
  | bool value => if value then 1 else 0
  | float value => value.toInt?.getD 0
  | _ => 0

def asNumber : Json → Binary64
  | int value => Binary64.ofInt value
  | bool value => if value then 1 else 0
  | float value => value
  | string value => (Binary64.read? value.shown).getD .nan
  | _ => .nan

def has (value : Json) (name : String) : Bool :=
  (value.field? name).isSome

def get (value : Json) (name : String) : Json :=
  (value.field? name).getD null

def item (value : Json) (place : Nat) : Json :=
  (value.items[place]?).getD null

def getOr {α : Type} (value : Json) (name : String) (read : Json → α) (usual : α) : α :=
  match value.field? name with
  | some field => read field
  | none => usual

end Rulebound.Json

namespace Rulebound

/-!
## Snapshots of worlds

Worlds as JSON. A world is read from the parts of it that are given, the others being as usual. A
state is written with the blocks that differ from an earlier one.
-/

def Position.ofJson (value : Json) : Position :=
  match value.items with
  | [x, y, z] => ⟨x.asNumber, y.asNumber, z.asNumber⟩
  | _ => ⟨.nan, .nan, .nan⟩

def Position.toList (p : Position) : List Json :=
  [.float p.x, .float p.y, .float p.z]

def Coord.ofJson (value : Json) : Coord :=
  ⟨(value.item 0).asInt, (value.item 1).asInt, (value.item 2).asInt⟩

def Coord.toList (c : Coord) : List Json :=
  [.int c.x, .int c.y, .int c.z]

def Coord.le (a b : Coord) : Bool :=
  a.x < b.x || (a.x == b.x && (a.y < b.y || (a.y == b.y && a.z ≤ b.z)))

def Entity.ofJson (value : Json) : Entity where
  type := (value.item 0).asText
  position := .ofJson (value.item 1)
  name := (value.item 2).asText?
  health := if value.items.length ≤ 3 then 20 else (value.item 3).asNumber

def Entity.toJson (entity : Entity) : Json :=
  .array [.string entity.type, .array entity.position.toList, .ofText? entity.name,
    .float entity.health]

namespace World

def withParts (world : World) (parts : Json) : World :=
  { world with
    position := parts.getOr "position" .ofJson world.position
    health := parts.getOr "health" Json.asNumber world.health
    food := parts.getOr "food" Json.asNumber world.food
    time := parts.getOr "time" Json.asInt world.time
    raining := parts.getOr "raining" Json.isTruthy world.raining
    thunder := parts.getOr "thunder" Json.asNumber world.thunder
    biome := parts.getOr "biome" Json.asText world.biome }

/-- A world from its parts; what is no object stands for the starting world. -/
def ofJson (parts : Json) : World :=
  match parts with
  | .object _ =>
      let made : World := {
        blocks := .ofList ((parts.get "blocks").items.map fun block =>
          (.ofJson block, (block.item 3).asText))
        entities := (parts.get "entities").items.map .ofJson
        inventory := .ofList ((parts.get "inventory").items.map fun item =>
          ((item.item 0).asText, (item.item 1).asInt)) }
      made.withParts parts
  | _ => starter

/-- The blocks that differ between two worlds, in the order of their coordinates: what was there
and what is there. -/
def changes (before after : World) : List (Coord × Option String × Option String) :=
  let gone : List (Coord × Option String × Option String) :=
    before.blocks.entries.filterMap fun (coord, old) =>
      if after.blocks.get? coord = some old then none
      else some (coord, some old, after.blocks.get? coord)
  let fresh : List (Coord × Option String × Option String) :=
    after.blocks.entries.filterMap fun (coord, new) =>
      if before.blocks.contains coord then none else some (coord, none, some new)
  (gone ++ fresh).mergeSort fun a b => a.1.le b.1

/-- The state of a world, with the blocks that differ from an earlier one. -/
def toJson (before world : World) : Json :=
  .object [
    ("position", .array world.position.toList),
    ("health", .float world.health),
    ("food", .float world.food),
    ("time", .int world.time),
    ("connected", .bool world.connected),
    ("inventory", .array (world.inventory.entries.map fun (name, count) =>
      .array [.string name, .int count])),
    ("entities", .array (world.entities.map Entity.toJson)),
    ("blocks", .int world.blocks.size),
    ("changed", .array <|
      if before.blocks = world.blocks then []
      else (changes before world).map fun (coord, old, new) =>
        .array (coord.toList ++ [.ofText? old, .ofText? new])),
    ("chat", .ofTexts world.chatLog),
    ("look", match world.lookTarget with
      | some target => .array target.toList
      | none => .null)]

end World

end Rulebound
