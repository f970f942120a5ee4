import Rulebound.Observation
import Rulebound.Profile

/-!
# Prompts

What the model is told: instructions that do not change with what the agent sees, among them the
rules in force, and a description of what it sees.
-/

namespace Rulebound

structure Prompt where
  system : String
  user : String
deriving DecidableEq, Repr, Inhabited

namespace Prompt

def catalog : List String := [
  "- move <direction> - Move north, south, east, or west",
  "- goto <x> <y> <z> - Navigate to specific coordinates",
  "- mine <block_type> - Mine a specific type of block nearby",
  "- collect <item> - Collect nearby items",
  "- attack <entity> - Attack a nearby entity",
  "- craft <item> - Craft an item if you have materials",
  "- place <block> - Place a block from inventory",
  "- eat - Eat food from inventory",
  "- sleep - Sleep in a nearby bed",
  "- chat <message> - Send a chat message",
  "- wait - Do nothing this turn",
  "- look <direction> - Look in a direction to observe"]

def knowledge : List String := [
  "IMPORTANT MINECRAFT KNOWLEDGE:",
  "- You start with NO tools. First gather wood (oak_log, birch_log, etc.) by hand",
  "- Basic crafting (planks, sticks) can be done without a crafting table",
  "- CRAFTING TABLE: Required for tools, weapons, and most items! Craft from 4 " ++
    "planks, then place it",
  "- FURNACE: Required to smelt ores into ingots! Craft from 8 cobblestone, then place it",
  "",
  "CRAFTING PROGRESSION:",
  "1. Mine logs by hand (oak_log, birch_log, etc.)",
  "2. Craft logs into planks (1 log = 4 planks)",
  "3. Craft planks into sticks (2 planks = 4 sticks)",
  "4. Craft 4 planks into a crafting_table",
  "5. Place the crafting table, then craft tools near it",
  "6. Craft wooden_pickaxe (3 planks + 2 sticks)",
  "7. Mine stone/cobblestone with wooden pickaxe",
  "8. Craft furnace (8 cobblestone) and stone tools",
  "",
  "MINING REQUIREMENTS:",
  "- By hand: dirt, sand, gravel, wood",
  "- Wooden pickaxe: stone, cobblestone, coal_ore",
  "- Stone pickaxe: iron_ore, copper_ore, lapis_ore",
  "- Iron pickaxe: gold_ore, diamond_ore, redstone_ore, emerald_ore",
  "",
  "SMELTING (requires furnace + fuel like coal or planks):",
  "- iron_ore + fuel = iron_ingot",
  "- gold_ore + fuel = gold_ingot",
  "- raw food + fuel = cooked food"]

def responseFormat : List String := [
  "IMPORTANT: First explain your reasoning (2-3 sentences), then provide your action.",
  "",
  "Response format:",
  "THINKING: <your reasoning about the current situation and why you chose this action>",
  "ACTION: <action_name> <parameters>",
  "",
  "Example response:",
  "THINKING: I have no tools yet. I need to gather wood first to craft a pickaxe " ++
    "before I can mine stone.",
  "ACTION: mine oak_log"]

def numbered : Nat → List String → List String
  | _, [] => []
  | place, rule :: rest => (intText place ++ ". " ++ rule) :: numbered (place + 1) rest

def rulesText : List String → String
  | [] => "No specific rules."
  | rules => Text.join "\n" (numbered 1 rules)

def systemText (profile : Profile) (rules : List String) : String :=
  "You are " ++ profile.name ++ ", an AI agent in Minecraft.\n\n" ++
  "PERSONALITY: " ++ profile.personality ++ "\n\n" ++
  "YOUR GOAL: " ++ profile.goal ++ "\n\n" ++
  "RULES YOU MUST FOLLOW:\n" ++ rulesText rules ++ "\n\n" ++
  "You can perform these actions:\n" ++ Text.join "\n" catalog ++ "\n\n" ++
  Text.join "\n" knowledge ++ "\n\n" ++
  Text.join "\n" responseFormat

/-- How many blocks, and how many things carried, are described. -/
def maxBlocks : Nat := 10

def maxItems : Nat := 10

def listed (texts : List String) (nothing : String) : String :=
  let text := Text.join ", " texts
  if text = "" then nothing else text

def userText (seen : Observation) (goal : String) : Except Fault String := do
  let items ← Item.texts maxItems " x" seen.inventory
  return "CURRENT STATE:\n" ++
    "- Position: " ++ seen.position.x.tenthsText ++ ", " ++ seen.position.y.tenthsText ++ ", " ++
      seen.position.z.tenthsText ++ "\n" ++
    "- Health: " ++ seen.health.generalText ++ "/20\n" ++
    "- Hunger: " ++ seen.food.generalText ++ "/20\n" ++
    "- Time: " ++ seen.timeOfDay ++ "\n" ++
    "- Weather: " ++ seen.weather ++ "\n\n" ++
    "NEARBY BLOCKS:\n" ++ listed (seen.nearbyBlocks.take maxBlocks) "None visible" ++ "\n\n" ++
    "NEARBY ENTITIES:\n" ++
      listed (seen.nearbyEntities.map fun being =>
        being.type ++ " (" ++ being.distance.tenthsText ++ "m)") "None" ++ "\n\n" ++
    "INVENTORY:\n" ++ listed items "Empty" ++ "\n\n" ++
    "YOUR GOAL: " ++ goal ++ "\n\n" ++
    "Think about your current situation and goal. What action should you take?\n" ++
    "Remember to explain your THINKING first, then provide your ACTION."

def make (profile : Profile) (rules : List String) (seen : Observation) :
    Except Fault Prompt := do
  return ⟨systemText profile rules, ← userText seen profile.goal⟩

end Prompt

end Rulebound
