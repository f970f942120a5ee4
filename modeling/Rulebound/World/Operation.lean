import Rulebound.Body
import Rulebound.Outcome
import Rulebound.Text.Case
import Rulebound.World

/-!
# What the agent does in the world

The operations of the agent. Each says whether it succeeded. Every operation makes its checks first
and its changes after them, so one that does not succeed leaves the world as it was.
-/

namespace Rulebound.World

def goTo (target : Position) : Act World Bool := do
  let block ← Act.find fun _ => target.block
  if (← Act.look).blocks.contains block then
    Act.refuse ("Failed to navigate: " ++ block.text ++ " is solid")
  else
    Act.change (·.moveTo block)
    Act.change advance
    return true

def moveDirection (direction : String) : Act World Bool := do
  match moveOffset? (Text.lower direction) with
  | none => Act.refuse ("Unknown direction: " ++ direction)
  | some (dx, dz) =>
      let here := (← Act.look).position
      goTo ⟨here.x + Binary64.ofInt dx, here.y, here.z + Binary64.ofInt dz⟩

def lookAt (target : Position) : Act World Bool := do
  Act.change fun world => { world with lookTarget := some target }
  return true

def mineBlock (name : String) : Act World Bool := do
  match ← Act.find (findBlock · (· == name)) with
  | none => Act.refuse ("No " ++ name ++ " found nearby")
  | some coord =>
      if (← Act.look).canBreak name then
        Act.change (·.clear coord)
        Act.change (·.give (dropOf name) 1)
        Act.change advance
        Act.succeed ("Mined " ++ name)
      else Act.refuse ("Failed to mine: " ++ name ++ " needs a better pickaxe")

def placeBlock (name : String) : Act World Bool := do
  if (← Act.look).countOf name ≤ 0 then Act.refuse ("No " ++ name ++ " in inventory")
  else
    let block ← Act.find (·.position.block)
    let target : Coord := ⟨block.x + 1, block.y, block.z⟩
    if (← Act.look).blocks.contains target then
      Act.refuse ("Failed to place: " ++ target.text ++ " is occupied")
    else
      Act.change (·.build target name)
      Act.change (·.take name 1)
      Act.change advance
      Act.succeed ("Placed " ++ name)

/-- The nearest of the beings that go by a name, as its place in the list; of equally near ones
the first. The place of the next being and the best one so far come first. -/
def targetAux (origin : Position) (name : String) :
    Nat → Option (Binary64 × Nat) → List Entity → Except Fault (Option Nat)
  | _, best, [] => .ok (best.map (·.2))
  | place, best, entity :: rest =>
      if entity.goesBy name then do
        let gap ← entity.position.distanceFrom origin
        let closer := (best.map fun least => gap.lt least.1).getD true
        targetAux origin name (place + 1)
          (if gap.le attackRadius && closer then some (gap, place) else best) rest
      else targetAux origin name (place + 1) best rest

/-- The place of the being that an attack on a name hits. -/
def target? (world : World) (name : String) : Except Fault (Option Nat) :=
  targetAux world.position name 0 none world.entities

/-- Beings after the one at a place was hit. If no health is left to it, the first being that
equals it is gone. -/
def strike (place : Nat) (entities : List Entity) : List Entity :=
  match entities[place]? with
  | none => entities
  | some entity =>
      let hit := entity.struck
      let after := entities.set place hit
      if hit.health.le 0 then after.eraseP hit.equals else after

def attackEntity (name : String) : Act World Bool := do
  match ← Act.find (target? · name) with
  | none => Act.refuse ("No " ++ name ++ " found nearby")
  | some place =>
      Act.change fun world => { world with entities := strike place world.entities }
      Act.change advance
      return true

def edible? (world : World) : Option String :=
  world.inventory.keys.find? (fun item => (foodPoints? item).isSome)

def eatFood : Act World Bool := do
  match (← Act.look).edible? with
  | none => Act.refuse "No food in inventory"
  | some item =>
      Act.change (·.take item 1)
      Act.change (·.feed ((foodPoints? item).getD 0))
      Act.change advance
      Act.succeed ("Ate " ++ item)

/-- Whether there is a crafting table within reach, if a recipe needs one. -/
def hasTableFor (world : World) (recipe : Recipe) : Except Fault Bool :=
  if recipe.needsTable then (·.isSome) <$> world.findBlock (· == "crafting_table") else .ok true

def missing? (world : World) (recipe : Recipe) : Option (String × Int) :=
  recipe.ingredients.find? fun (item, count) => decide (world.countOf item < count)

def useUp : List (String × Int) → Act World Unit
  | [] => pure ()
  | (item, count) :: rest => do
      Act.change (·.take item count)
      useUp rest

def craft (name : String) : Act World Bool := do
  match recipe? name with
  | none => Act.refuse ("No recipe for " ++ name)
  | some recipe =>
      if ← Act.find (hasTableFor · recipe) then
        match (← Act.look).missing? recipe with
        | some (item, _) => Act.refuse ("Failed to craft: missing " ++ item)
        | none =>
            useUp recipe.ingredients
            Act.change (·.give name recipe.count)
            Act.change advance
            Act.succeed ("Crafted " ++ name)
      else Act.refuse ("Failed to craft: " ++ name ++ " needs a crafting table")

def sleep : Act World Bool := do
  match ← Act.find (findBlock · fun block => Text.contains block "bed") with
  | none => Act.refuse "No bed found nearby"
  | some _ =>
      if (← Act.look).time < 12000 then
        Act.refuse "Failed to sleep: you can only sleep at night"
      else
        Act.change fun world => { world with time := 0 }
        Act.succeed "Sleeping..."

def chat (world : World) (message : String) : World :=
  { world with chatLog := world.chatLog ++ [message] }

def connect (world : World) : World :=
  { world with connected := true }

def connectLogs (world : World) : List Log.Line :=
  [.info ("Spawned at " ++ world.position.text)]

def disconnect (world : World) : World :=
  { world with connected := false }

def disconnectLogs (world : World) : List Log.Line :=
  if world.connected then [.info "Disconnected"] else []

/-! ## Seeing -/

/-- The blocks that the agent notices: the one it stands on, and one two steps away on each side. -/
def scan (world : World) : Except Fault (List String) := do
  let here ← world.position.block
  let noticed (label : String) (coord : Coord) : List String :=
    match world.blocks.get? coord with
    | some block => if block = "" then [] else [label ++ ": " ++ block]
    | none => []
  return noticed "standing on" ⟨here.x, here.y - 1, here.z⟩ ++
    scanDirections.flatMap fun (label, dx, dz) =>
      noticed label ⟨here.x + 2 * dx, here.y, here.z + 2 * dz⟩

def beings (world : World) : Except Fault (List (String × Option String × Position)) :=
  world.entities.mapM fun entity => do
    return (entity.type, entity.name, ← entity.position.sightedAt)

def observe (world : World) : Except Fault Observation := do
  let nearbyBlocks ← world.scan
  let beings ← world.beings
  return {
    position := world.position
    health := world.health
    food := world.food
    timeOfDay := Observation.timeLabel world.time
    weather := Observation.weatherLabel world.raining world.thunder
    nearbyBlocks
    nearbyEntities :=
      Sighting.nearest world.position beings Sighting.maxDistance Sighting.maxCount
    inventory := world.inventory.entries.map fun (name, count) => ⟨name, count⟩
    biome := world.biome }

/-!
## The world as a body

A block world answers every call of an agent by one of its operations.
-/

/-- What an operation says about its success, as the answer to a call. -/
def answer (outcome : Outcome World Bool) : Outcome World Json :=
  outcome.map .bool

def perform (world : World) : Call → Outcome World Json
  | .moveDirection direction => answer (moveDirection direction world)
  | .goTo target => answer (goTo target world)
  | .mineBlock name => answer (mineBlock name world)
  | .attackEntity name => answer (attackEntity name world)
  | .craft name => answer (craft name world)
  | .placeBlock name => answer (placeBlock name world)
  | .eatFood => answer (eatFood world)
  | .sleep => answer (sleep world)
  | .chat message => ⟨world.chat message, .ok .null, []⟩
  | .lookAt target => answer (lookAt target world)

def body : Body World where
  connect world := ⟨world.connect, .ok (), world.connectLogs⟩
  disconnect world := (world.disconnect, world.disconnectLogs)
  observe world := ⟨world, world.observe, []⟩
  position world := .ok world.position
  perform := perform

end Rulebound.World
