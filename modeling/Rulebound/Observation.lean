import Rulebound.Fault
import Rulebound.Position

/-!
# Observations

What the agent sees at one moment: itself, the time and the weather, the blocks around it, the
nearest beings, and what it carries.
-/

namespace Rulebound

structure Sighting where
  type : String
  name : Option String
  distance : Binary64
deriving DecidableEq, Repr, Inhabited

structure Item where
  name : String
  count : Int
deriving DecidableEq, Repr, Inhabited

def Item.texts (limit : Nat) (mark : String) (items : List Item) : Except Fault (List String) :=
  (items.take limit).mapM fun item => do
    return item.name ++ mark ++ (← shownInt item.count)

structure Observation where
  position : Position
  health : Binary64
  food : Binary64
  timeOfDay : String
  weather : String
  nearbyBlocks : List String
  nearbyEntities : List Sighting
  inventory : List Item
  biome : String
deriving DecidableEq, Repr, Inhabited

namespace Sighting

def toJson (s : Sighting) : Json :=
  .object [
    ("type", .string s.type),
    ("name", .ofText? s.name),
    ("distance", .float s.distance)]

def decode : Json → Checked Sighting :=
  Decode.object fun fields =>
    Decode.only ["type", "name", "distance"] fields
      (Sighting.mk <$> Decode.required fields "type" Decode.text
        <*> Decode.withDefault fields "name" (Decode.optional Decode.text) none
        <*> Decode.required fields "distance" Decode.number)

/-- The nearest of some beings: those within a distance, the nearer first and equally near ones in
their order, as many as the limit says. A negative limit leaves out as many at the end. -/
def nearest (origin : Position) (beings : List (String × Option String × Position))
    (maxDistance : Binary64) (limit : Int) : List Sighting :=
  let seen := beings.map fun (type, name, position) =>
    (⟨type, name, origin.distance position⟩ : Sighting)
  let inRange := seen.filter (·.distance.le maxDistance)
  let sorted := inRange.mergeSort fun a b => a.distance.le b.distance
  sorted.take (if limit < 0 then (sorted.length + limit).toNat else limit.toNat)

def maxDistance : Binary64 := 16

def maxCount : Int := 10

end Sighting

namespace Item

def toJson (item : Item) : Json :=
  .object [("name", .string item.name), ("count", .int item.count)]

def decode : Json → Checked Item :=
  Decode.object fun fields =>
    Decode.only ["name", "count"] fields
      (Item.mk <$> Decode.required fields "name" Decode.text
        <*> Decode.required fields "count" Decode.integer)

end Item

namespace Observation

def timeLabel (time : Int) : String :=
  if 0 ≤ time ∧ time < 6000 then "morning"
  else if 6000 ≤ time ∧ time < 12000 then "day"
  else if 12000 ≤ time ∧ time < 18000 then "evening"
  else "night"

/-- The name of the weather. There is no thunder without rain. -/
def weatherLabel (raining : Bool) (thunder : Binary64) : String :=
  if raining then (if (0 : Binary64).lt thunder then "thunderstorm" else "rain") else "clear"

def toJson (o : Observation) : Json :=
  .object [
    ("position", o.position.toJson),
    ("health", .float o.health),
    ("food", .float o.food),
    ("time_of_day", .string o.timeOfDay),
    ("weather", .string o.weather),
    ("nearby_blocks", .ofTexts o.nearbyBlocks),
    ("nearby_entities", .array (o.nearbyEntities.map Sighting.toJson)),
    ("inventory", .array (o.inventory.map Item.toJson)),
    ("biome", .string o.biome)]

def decode : Json → Checked Observation :=
  Decode.object fun fields =>
    Decode.only ["position", "health", "food", "time_of_day", "weather", "nearby_blocks",
        "nearby_entities", "inventory", "biome"] fields
      (Observation.mk <$> Decode.required fields "position" Position.decode
        <*> Decode.required fields "health" Decode.number
        <*> Decode.required fields "food" Decode.number
        <*> Decode.required fields "time_of_day" Decode.text
        <*> Decode.required fields "weather" Decode.text
        <*> Decode.withDefault fields "nearby_blocks" (Decode.list Decode.text) []
        <*> Decode.withDefault fields "nearby_entities" (Decode.list Sighting.decode) []
        <*> Decode.withDefault fields "inventory" (Decode.list Item.decode) []
        <*> Decode.withDefault fields "biome" Decode.text "unknown")

end Observation

end Rulebound
