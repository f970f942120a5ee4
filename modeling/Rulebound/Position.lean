import Rulebound.Number.Decimal
import Rulebound.Schema.Decode

/-!
# Places

Positions of the agent and of what it sees, and the whole coordinates of blocks.
-/

namespace Rulebound

structure Position where
  x : Binary64
  y : Binary64
  z : Binary64
deriving DecidableEq, Repr, Inhabited

structure Coord where
  x : Int
  y : Int
  z : Int
deriving DecidableEq, Repr, Inhabited

namespace Position

def distance (a b : Position) : Binary64 :=
  Binary64.norm (a.x - b.x) (a.y - b.y) (a.z - b.z)

def add (a b : Position) : Position :=
  ⟨a.x + b.x, a.y + b.y, a.z + b.z⟩

instance : Add Position := ⟨add⟩

/-- The coordinates of the block that a point lies in. -/
def block (p : Position) : Except Fault Coord := do
  let x ← p.x.floor.mapError Fault.ofNotFinite
  let y ← p.y.floor.mapError Fault.ofNotFinite
  let z ← p.z.floor.mapError Fault.ofNotFinite
  return ⟨x, y, z⟩

def text (p : Position) : String :=
  "(" ++ p.x.text ++ ", " ++ p.y.text ++ ", " ++ p.z.text ++ ")"

def toJson (p : Position) : Json :=
  .object [("x", .float p.x), ("y", .float p.y), ("z", .float p.z)]

def decode : Json → Checked Position :=
  Decode.object fun fields =>
    Decode.only ["x", "y", "z"] fields
      (Position.mk <$> Decode.required fields "x" Decode.number
        <*> Decode.required fields "y" Decode.number
        <*> Decode.required fields "z" Decode.number)

end Position

namespace Coord

/-- The corner of a block as a point, if its coordinates are not too large. -/
def corner? (c : Coord) : Option Position := do
  let x ← Binary64.ofInt? c.x
  let y ← Binary64.ofInt? c.y
  let z ← Binary64.ofInt? c.z
  return ⟨x, y, z⟩

def distanceFrom (origin : Position) (c : Coord) : Except Fault Binary64 :=
  match c.corner? with
  | some corner => .ok (origin.distance corner)
  | none => .error Fault.integerTooLarge

def sightedAt (c : Coord) : Except Fault Position :=
  (Position.mk <$> (Decode.number (.int c.x)).under (.field "x")
    <*> (Decode.number (.int c.y)).under (.field "y")
    <*> (Decode.number (.int c.z)).under (.field "z")).toExcept

def text (c : Coord) : String :=
  "(" ++ intText c.x ++ ", " ++ intText c.y ++ ", " ++ intText c.z ++ ")"

end Coord

end Rulebound
