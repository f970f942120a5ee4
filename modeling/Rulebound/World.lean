import Rulebound.Log
import Rulebound.Observation
import Rulebound.Table

/-!
# Block worlds

The state of a world of blocks with one agent in it, and the laws of things: what tools break what,
what broken blocks become, what can be eaten and what can be made.
-/

namespace Rulebound

structure Entity where
  type : String
  position : Coord
  name : Option String
  health : Binary64
deriving DecidableEq, Repr, Inhabited

/-- Whether a being goes by a name: its own or that of its type. -/
def Entity.goesBy (entity : Entity) (name : String) : Bool :=
  entity.type == name || entity.name == some name

/-- Whether two beings have equal fields. Health is compared as a number. -/
def Entity.equals (a b : Entity) : Bool :=
  a.type == b.type && a.position == b.position && a.name == b.name &&
    a.health.le b.health && b.health.le a.health

def Entity.struck (entity : Entity) : Entity :=
  { entity with health := entity.health - 10 }

/-- A world with one agent. Blocks and things carried keep the order in which they were added. -/
structure World where
  position : Position := ⟨Binary64.half, 64, Binary64.half⟩
  blocks : Table Coord String := .empty
  entities : List Entity := []
  inventory : Table String Int := .empty
  health : Binary64 := 20
  food : Binary64 := 20
  time : Int := 0
  raining : Bool := false
  thunder : Binary64 := 0
  biome : String := "plains"
  connected : Bool := false
  chatLog : List String := []
  lookTarget : Option Position := none
deriving DecidableEq, Inhabited

namespace World

/-! ## Laws of things -/

def dayLength : Int := 24000

def actionTime : Int := 400

def hunger : Binary64 := Binary64.ofRatio 1 4

def searchRadius : Binary64 := 32

def attackRadius : Binary64 := 16

def moveOffset? (direction : String) : Option (Int × Int) :=
  [("north", (0, -5)), ("south", (0, 5)), ("east", (5, 0)), ("west", (-5, 0))].lookup direction

/-- The directions in which the agent looks for blocks around it, as steps. -/
def scanDirections : List (String × Int × Int) :=
  [("east", 1, 0), ("west", -1, 0), ("south", 0, 1), ("north", 0, -1)]

def pickaxes : List String :=
  ["wooden_pickaxe", "stone_pickaxe", "iron_pickaxe", "diamond_pickaxe"]

/-- How many of the pickaxes are not good enough to break a block; every other block breaks by
hand. -/
def tierOf? (block : String) : Option Nat :=
  [("stone", 0), ("cobblestone", 0), ("coal_ore", 0), ("iron_ore", 1), ("copper_ore", 1),
    ("lapis_ore", 1), ("gold_ore", 2), ("diamond_ore", 2), ("redstone_ore", 2),
    ("emerald_ore", 2)].lookup block

/-- The blocks that become something else when they are broken. -/
def drops : List (String × String) :=
  [("stone", "cobblestone"), ("coal_ore", "coal"), ("diamond_ore", "diamond"),
    ("grass_block", "dirt")]

def dropOf (block : String) : String :=
  (drops.lookup block).getD block

def foodPoints? (item : String) : Option Int :=
  [("apple", 4), ("bread", 5), ("carrot", 3), ("cooked_beef", 8), ("cooked_porkchop", 8),
    ("beef", 3)].lookup item

structure Recipe where
  ingredients : List (String × Int)
  count : Int
  needsTable : Bool
deriving DecidableEq, Repr

def recipes : List (String × Recipe) :=
  [("oak_planks", ⟨[("oak_log", 1)], 4, false⟩),
    ("birch_planks", ⟨[("birch_log", 1)], 4, false⟩),
    ("stick", ⟨[("oak_planks", 2)], 4, false⟩),
    ("crafting_table", ⟨[("oak_planks", 4)], 1, false⟩),
    ("wooden_pickaxe", ⟨[("oak_planks", 3), ("stick", 2)], 1, true⟩),
    ("wooden_sword", ⟨[("oak_planks", 2), ("stick", 1)], 1, true⟩),
    ("stone_pickaxe", ⟨[("cobblestone", 3), ("stick", 2)], 1, true⟩),
    ("furnace", ⟨[("cobblestone", 8)], 1, true⟩)]

def recipe? (item : String) : Option Recipe :=
  recipes.lookup item

/-! ## Parts of the state -/

def countOf (world : World) (item : String) : Int :=
  (world.inventory.get? item).getD 0

def give (world : World) (item : String) (count : Int) : World :=
  { world with inventory := world.inventory.insert item (world.countOf item + count) }

/-- The world after some of a thing was taken from the agent, or all if it has no more. -/
def take (world : World) (item : String) (count : Int) : World :=
  let remaining := world.countOf item - count
  { world with
    inventory :=
      if 0 < remaining then world.inventory.insert item remaining
      else world.inventory.erase item }

def moveTo (world : World) (block : Coord) : World :=
  { world with
    position := ⟨Binary64.ofInt block.x + Binary64.half, Binary64.ofInt block.y,
      Binary64.ofInt block.z + Binary64.half⟩ }

def clear (world : World) (coord : Coord) : World :=
  { world with blocks := world.blocks.erase coord }

def build (world : World) (coord : Coord) (block : String) : World :=
  { world with blocks := world.blocks.insert coord block }

/-- The world after the agent ate something that gives so much food; it is never more than full. -/
def feed (world : World) (points : Int) : World :=
  let food := world.food + Binary64.ofInt points
  { world with food := if food.lt 20 then food else 20 }

/-- The world after the time and the hunger of one action. -/
def advance (world : World) : World :=
  let food := world.food - hunger
  { world with
    time := (world.time + actionTime) % dayLength
    food := if (0 : Binary64).lt food then food else 0 }

/-- The better of the blocks found so far and the next one: a block counts unless it is too far,
and replaces an earlier one only if it is nearer. -/
def nearer (best : Option (Binary64 × Coord)) (gap : Binary64) (coord : Coord) :
    Option (Binary64 × Coord) :=
  if searchRadius.lt gap then best
  else
    match best with
    | none => some (gap, coord)
    | some (least, _) => if gap.lt least then some (gap, coord) else best

/-- The nearest of some blocks whose names pass a test, given the best of those before. -/
def findAux (origin : Position) (passes : String → Bool) :
    Option (Binary64 × Coord) → List (Coord × String) → Except Fault (Option Coord)
  | best, [] => .ok (best.map (·.2))
  | best, (coord, block) :: rest =>
      if passes block then do
        let gap ← coord.distanceFrom origin
        findAux origin passes (nearer best gap coord) rest
      else findAux origin passes best rest

def findBlock (world : World) (passes : String → Bool) : Except Fault (Option Coord) :=
  findAux world.position passes none world.blocks.entries

/-- How many pickaxes are at most as good as the best one that the agent carries. -/
def pickaxeRank (world : World) : Nat :=
  (pickaxes.reverse.dropWhile fun tool => decide (world.countOf tool ≤ 0)).length

def canBreak (world : World) (block : String) : Bool :=
  match tierOf? block with
  | some tier => decide (tier < world.pickaxeRank)
  | none => true

end World

namespace World

/-!
## The starting world

A small plain with trees, an outcrop with ores, a bed and a few beings.
-/

def ground : List (Coord × String) :=
  (List.range 17).flatMap fun (x : Nat) =>
    (List.range 17).map fun (z : Nat) => (⟨(x : Int) - 8, 63, (z : Int) - 8⟩, "grass_block")

def trees : List (Coord × String) :=
  [64, 65, 66].flatMap fun y => [(⟨2, y, 0⟩, "oak_log"), (⟨-3, y, 4⟩, "birch_log")]

def outcrop : List (Coord × String) := [
  (⟨6, 64, -3⟩, "stone"),
  (⟨6, 65, -3⟩, "stone"),
  (⟨7, 64, -3⟩, "coal_ore"),
  (⟨7, 64, -4⟩, "iron_ore")]

def starter : World where
  blocks := .ofList (ground ++ trees ++ outcrop ++ [(⟨-6, 64, -6⟩, "red_bed")])
  entities := [
    ⟨"cow", ⟨5, 64, 5⟩, none, 20⟩,
    ⟨"zombie", ⟨-8, 64, 3⟩, none, 20⟩,
    ⟨"player", ⟨10, 64, 0⟩, some "Steve", 20⟩]
  inventory := .ofList [("apple", 2)]
  time := 1000

end World

end Rulebound
